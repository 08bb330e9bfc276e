import Mathlib.Data.Bool.AllAny
import Mathlib.Data.List.TakeWhile
import Storyboard.Code.Literal

/-!
# Literals before what ends them

How far a word or a number reaches depends on what stands behind it.  Behind it may stand nothing,
or one of a few characters that belong to neither (`numberEnds`, and the dash besides for words).
Then the literal is as long as it is alone: every function that measures it looks at the rest only
where the literal is used up, and finds nothing there that it could take.
-/

namespace Storyboard.Code

open Storyboard.Text

/-- Characters that no number goes on with. -/
def numberEnds : List Char :=
  ['(', ')', ':', ';', ',', '%', '"', '\'', ' ', '\t', '\n', '\r', '\x0c']

/-- Characters that no word goes on with. -/
def wordEnds : List Char := '-' :: '!' :: '#' :: numberEnds

/-- What follows begins with one of the characters, or there is nothing. -/
def Follows (ends rest : List Char) : Prop := ∀ c ∈ rest.head?, c ∈ ends

variable {ends text rest : List Char} {length : Nat}

@[simp]
theorem follows_nil (ends : List Char) : Follows ends [] := by
  simp [Follows]

@[simp]
theorem follows_cons_iff {c : Char} : Follows ends (c :: rest) ↔ c ∈ ends := by
  simp [Follows]

theorem mem_wordEnds {c : Char} (h : c ∈ numberEnds) : c ∈ wordEnds :=
  List.mem_cons_of_mem '-' (List.mem_cons_of_mem '!' (List.mem_cons_of_mem '#' h))

theorem Follows.word (h : Follows numberEnds rest) : Follows wordEnds rest :=
  fun c hc => mem_wordEnds (h c hc)

/-- Taking characters that end nothing goes no further than the text. -/
theorem takeWhile_append_of_follows {p : Char → Bool} (hrest : Follows ends rest)
    (hends : ∀ c ∈ ends, p c = false) : (text ++ rest).takeWhile p = text.takeWhile p := by
  have hnone : rest.takeWhile p = [] := by
    cases rest with
    | nil => rfl
    | cons c rest => simp [hends c (follows_cons_iff.mp hrest)]
  induction text with
  | nil => simpa using hnone
  | cons c text ih =>
      rw [List.cons_append, List.takeWhile_cons, List.takeWhile_cons, ih]

/-- Texts without the characters that may follow them are told apart from what follows. -/
theorem eq_of_append_eq {ends first second behind : List Char} (hfirst : ∀ c ∈ first, c ∉ ends)
    (hsecond : ∀ c ∈ second, c ∉ ends) (hrest : Follows ends rest) (hbehind : Follows ends behind)
    (h : first ++ rest = second ++ behind) : first = second ∧ rest = behind := by
  have htake {text rest : List Char} (htext : ∀ c ∈ text, c ∉ ends) (hrest : Follows ends rest) :
      (text ++ rest).takeWhile (fun c => !ends.contains c) = text := by
    rw [takeWhile_append_of_follows hrest (by simp), List.takeWhile_eq_self_iff.mpr]
    simpa using htext
  have heq : first = second := by
    rw [← htake hfirst hrest, h, htake hsecond hbehind]
  subst heq
  exact ⟨rfl, List.append_cancel_left h⟩

/-! ## Words -/

/-- Neither does a word begin with what ends one. -/
theorem no_word_of_mem_wordEnds {c : Char} (h : c ∈ wordEnds) :
    isWordStart c = false ∧ isWordRest c = false := by
  have hall : ∀ c ∈ wordEnds, isWordStart c = false ∧ isWordRest c = false :=
    List.all_iff_forall_prop.mp (by decide +kernel)
  exact hall c h

theorem startsWord_append (text : List Char) (hrest : Follows wordEnds rest) :
    startsWord (text ++ rest) = startsWord text := by
  cases text with
  | cons c text => rfl
  | nil =>
      cases rest with
      | nil => rfl
      | cons c rest => exact (no_word_of_mem_wordEnds (follows_cons_iff.mp hrest)).1

theorem wordLength_append (text : List Char) (hrest : Follows wordEnds rest) :
    wordLength (text ++ rest) = wordLength text := by
  have hends : ∀ c ∈ wordEnds, isWordRest c = false := fun c hc => (no_word_of_mem_wordEnds hc).2
  cases text with
  | cons c text =>
      rw [List.cons_append, wordLength, wordLength, takeWhile_append_of_follows hrest hends]
  | nil =>
      have hstart := startsWord_append [] hrest
      cases rest with
      | nil => rfl
      | cons c rest =>
          have hc : isWordStart c = false := hstart
          simp [wordLength, hc]

theorem length_takeWhile_le (p : Char → Bool) (text : List Char) :
    (text.takeWhile p).length ≤ text.length :=
  (List.takeWhile_prefix p).length_le

theorem wordLength_le (text : List Char) : wordLength text ≤ text.length := by
  cases text with
  | nil => exact Nat.le_refl _
  | cons c text =>
      have hle := length_takeWhile_le isWordRest text
      rw [wordLength, List.length_cons]
      split <;> omega

/-! ## Numbers -/

/-- A beginning of the text is dropped from the text alone. -/
theorem drop_takeWhile_append (p : Char → Bool) (text rest : List Char) :
    (text ++ rest).drop (text.takeWhile p).length = text.drop (text.takeWhile p).length ++ rest :=
  List.drop_append_of_le_length (length_takeWhile_le p text)

theorem digitsOrGaps_append (text : List Char) (hrest : Follows numberEnds rest) :
    (text ++ rest).takeWhile isDigitOrGap = text.takeWhile isDigitOrGap :=
  takeWhile_append_of_follows hrest (List.all_iff_forall_prop.mp (by decide))

/-- What ends a number is no part of one. -/
theorem ne_of_mem_numberEnds {c : Char} (h : c ∈ numberEnds) :
    c ≠ '+' ∧ c ≠ '-' ∧ c ≠ '.' ∧ c ≠ 'e' ∧ c ≠ 'E' ∧ c ≠ 'x' ∧ c ≠ 'o' ∧ c ≠ 'b' ∧ c ≠ '0' := by
  have hall : ∀ c ∈ numberEnds, c ≠ '+' ∧ c ≠ '-' ∧ c ≠ '.' ∧ c ≠ 'e' ∧ c ≠ 'E' ∧ c ≠ 'x' ∧
      c ≠ 'o' ∧ c ≠ 'b' ∧ c ≠ '0' := List.all_iff_forall_prop.mp (by decide)
  exact hall c h

theorem exponentLength?_append (text : List Char) (hrest : Follows numberEnds rest) :
    exponentLength? (text ++ rest) = exponentLength? text := by
  have hgaps : (text ++ rest).takeWhile (· == '_') = text.takeWhile (· == '_') :=
    takeWhile_append_of_follows hrest (List.all_iff_forall_prop.mp (by decide))
  unfold exponentLength?
  simp only [hgaps, drop_takeWhile_append]
  generalize text.drop (text.takeWhile (· == '_')).length = signed
  cases signed with
  | nil =>
      cases rest with
      | nil => rfl
      | cons c rest =>
          obtain ⟨hplus, hminus, -⟩ := ne_of_mem_numberEnds (follows_cons_iff.mp hrest)
          have hdigits := digitsOrGaps_append [] hrest
          simp only [List.nil_append] at hdigits
          simp [hplus, hminus, hdigits]
  | cons c signed =>
      -- a sign is part of the text
      by_cases hsign : c = '+' ∨ c = '-'
      · rcases hsign with rfl | rfl <;> simp [digitsOrGaps_append _ hrest]
      · rw [not_or] at hsign
        have hdigits := digitsOrGaps_append (c :: signed) hrest
        simp only [List.cons_append] at hdigits
        simp [hsign.1, hsign.2, hdigits]

theorem decimalLength?_append (text : List Char) (hrest : Follows numberEnds rest) :
    decimalLength? (text ++ rest) = decimalLength? text := by
  unfold decimalLength?
  simp only [digitsOrGaps_append _ hrest, drop_takeWhile_append]
  generalize (text.takeWhile isDigitOrGap).length = whole
  generalize text.drop whole = behind
  cases behind with
  | nil =>
      cases rest with
      | nil => rfl
      | cons c rest =>
          obtain ⟨-, -, hpoint, he, hE, -⟩ := ne_of_mem_numberEnds (follows_cons_iff.mp hrest)
          simp [hpoint, he, hE]
  | cons c behind =>
      by_cases hpoint : c = '.'
      · subst hpoint
        have hsecond : ((behind ++ rest).head? == some '.') = (behind.head? == some '.') := by
          cases behind with
          | cons d behind => rfl
          | nil =>
              cases rest with
              | nil => rfl
              | cons c rest =>
                  obtain ⟨-, -, hpoint, -⟩ := ne_of_mem_numberEnds (follows_cons_iff.mp hrest)
                  simpa using hpoint
        simp only [List.cons_append, startsWord_append _ hrest.word, hsecond,
          digitsOrGaps_append _ hrest, drop_takeWhile_append]
        generalize (behind.takeWhile isDigitOrGap).length = fraction
        generalize behind.drop fraction = last
        cases last with
        | nil =>
            cases rest with
            | nil => rfl
            | cons c rest =>
                obtain ⟨-, -, -, he, hE, -⟩ := ne_of_mem_numberEnds (follows_cons_iff.mp hrest)
                simp [he, hE]
        | cons c last =>
            by_cases hpower : c = 'e' ∨ c = 'E'
            · rcases hpower with rfl | rfl <;> simp [exponentLength?_append _ hrest]
            · rw [not_or] at hpower
              simp [hpower.1, hpower.2]
      · by_cases hpower : c = 'e' ∨ c = 'E'
        · rcases hpower with rfl | rfl <;> simp [exponentLength?_append _ hrest]
        · rw [not_or] at hpower
          simp [hpoint, hpower.1, hpower.2]

theorem digitsLength?_append (text : List Char) {base : Nat} (hrest : Follows numberEnds rest) :
    digitsLength? base (text ++ rest) = digitsLength? base text := by
  have hends : ∀ c ∈ numberEnds, (isDigitOrGap c || (base == 16 && isHexDigit c)) = false := by
    intro c hc
    have hboth : ∀ c ∈ numberEnds, isDigitOrGap c = false ∧ isHexDigit c = false :=
      List.all_iff_forall_prop.mp (by decide)
    obtain ⟨hdigit, hhex⟩ := hboth c hc
    simp [hdigit, hhex]
  unfold digitsLength?
  simp only [takeWhile_append_of_follows hrest hends]

/-- A number without a mark of another base has decimal digits. -/
theorem wholeLength?_eq {text : List Char}
    (h : ∀ mark rest, text = '0' :: mark :: rest → mark ≠ 'x' ∧ mark ≠ 'o' ∧ mark ≠ 'b') :
    wholeLength? text = digitsLength? 10 text := by
  unfold wholeLength?
  split
  case h_1 rest => exact absurd rfl (h 'x' rest rfl).1
  case h_2 rest => exact absurd rfl (h 'o' rest rfl).2.1
  case h_3 rest => exact absurd rfl (h 'b' rest rfl).2.2
  case h_4 => rfl

theorem wholeLength?_append (text : List Char) (hrest : Follows numberEnds rest) :
    wholeLength? (text ++ rest) = wholeLength? text := by
  have hmarked {base : Nat} (digits : List Char) :
      (digitsLength? base (digits ++ rest)).map (· + 2)
        = (digitsLength? base digits).map (· + 2) := by
    rw [digitsLength?_append _ hrest]
  by_cases h : ∃ mark digits, text = '0' :: mark :: digits ∧ (mark = 'x' ∨ mark = 'o' ∨ mark = 'b')
  · obtain ⟨mark, digits, rfl, rfl | rfl | rfl⟩ := h
    · exact hmarked digits
    · exact hmarked digits
    · exact hmarked digits
  · have htext : ∀ mark digits, text = '0' :: mark :: digits →
        mark ≠ 'x' ∧ mark ≠ 'o' ∧ mark ≠ 'b' := by
      intro mark digits heq
      refine ⟨?_, ?_, ?_⟩ <;> rintro rfl <;> exact h ⟨_, digits, heq, by simp⟩
    have hlong : ∀ mark digits, text ++ rest = '0' :: mark :: digits →
        mark ≠ 'x' ∧ mark ≠ 'o' ∧ mark ≠ 'b' := by
      intro mark digits heq
      match text, heq with
      | [], heq =>
          have hzero : '0' ∈ numberEnds := by
            rw [List.nil_append] at heq
            rw [heq] at hrest
            exact follows_cons_iff.mp hrest
          exact absurd hzero (by decide)
      | [_], heq =>
          obtain ⟨rfl, rfl⟩ := List.cons.inj heq
          obtain ⟨-, -, -, -, -, hx, ho, hb, -⟩ := ne_of_mem_numberEnds (follows_cons_iff.mp hrest)
          exact ⟨hx, ho, hb⟩
      | _ :: _ :: text, heq =>
          obtain ⟨rfl, hsecond⟩ := List.cons.inj heq
          obtain ⟨rfl, -⟩ := List.cons.inj hsecond
          exact htext _ text rfl
    rw [wholeLength?_eq htext, wholeLength?_eq hlong, digitsLength?_append _ hrest]

theorem withUnit?_append (text : List Char) (hrest : Follows numberEnds rest)
    (hle : length ≤ text.length) :
    withUnit? (text ++ rest) length = withUnit? text length := by
  have hunit : wordLength (text.drop length) ≤ text.length - length := by
    simpa using wordLength_le (text.drop length)
  have hall : length + wordLength (text.drop length) ≤ text.length := by omega
  unfold withUnit?
  simp only [List.drop_append_of_le_length hle, wordLength_append _ hrest.word,
    List.drop_append_of_le_length hall]
  generalize text.drop (length + wordLength (text.drop length)) = behind
  cases behind with
  | cons c behind => rfl
  | nil =>
      cases rest with
      | nil => rfl
      | cons c rest =>
          have hend := mem_wordEnds (follows_cons_iff.mp hrest)
          simp [(no_word_of_mem_wordEnds hend).2]

/-! ## Numbers are no longer than the text -/

theorem exponentLength?_le (h : exponentLength? text = some length) : length ≤ text.length := by
  unfold exponentLength? at h
  simp only [Option.ite_none_right_eq_some, Option.some.injEq] at h
  obtain ⟨-, rfl⟩ := h
  have hgaps := length_takeWhile_le (· == '_') text
  have hsigned := List.length_drop (i := (text.takeWhile (· == '_')).length) (l := text)
  generalize text.drop (text.takeWhile (· == '_')).length = signed at hsigned ⊢
  have hdigits (sign : Nat) := length_takeWhile_le isDigitOrGap (signed.drop sign)
  simp only [List.length_drop] at hdigits
  -- a sign is a character of what follows the gaps
  split
  case h_1 | h_2 =>
      have hone := hdigits 1
      simp only [List.length_cons] at hone hsigned ⊢
      omega
  case h_3 =>
      have hzero := hdigits 0
      omega

theorem decimalLength?_le (h : decimalLength? text = some length) : length ≤ text.length := by
  unfold decimalLength? at h
  have hwhole := length_takeWhile_le isDigitOrGap text
  have hbehind := List.length_drop (i := (text.takeWhile isDigitOrGap).length) (l := text)
  generalize (text.takeWhile isDigitOrGap).length = whole at *
  simp only at h
  generalize text.drop whole = behind at *
  split at h
  case h_1 fraction =>
      split at h
      · cases h
      · have hfraction := length_takeWhile_le isDigitOrGap fraction
        have hlast :=
          List.length_drop (i := (fraction.takeWhile isDigitOrGap).length) (l := fraction)
        generalize (fraction.takeWhile isDigitOrGap).length = digits at *
        generalize fraction.drop digits = last at *
        simp only [List.length_cons] at hbehind
        split at h
        case h_1 power | h_2 power =>
            cases hpower : exponentLength? power with
            | none =>
                simp only [hpower, Option.map_none, Option.getD_none, Option.some.injEq] at h
                simp only [List.length_cons] at hlast
                omega
            | some more =>
                have hle := exponentLength?_le hpower
                simp only [hpower, Option.map_some, Option.getD_some, Option.some.injEq] at h
                simp only [List.length_cons] at hlast
                omega
        case h_3 =>
            simp only [Option.some.injEq] at h
            omega
  case h_2 power | h_3 power =>
      obtain ⟨more, hmore, rfl⟩ := Option.map_eq_some_iff.mp h
      have hle := exponentLength?_le hmore
      simp only [List.length_cons] at hbehind
      omega
  case h_4 => cases h

theorem digitsLength?_le {base : Nat} (h : digitsLength? base text = some length) :
    length ≤ text.length := by
  unfold digitsLength? at h
  simp only [Option.ite_none_right_eq_some, Option.some.injEq] at h
  obtain ⟨-, rfl⟩ := h
  exact length_takeWhile_le _ text

theorem wholeLength?_le (h : wholeLength? text = some length) : length ≤ text.length := by
  unfold wholeLength? at h
  split at h
  case h_1 digits | h_2 digits | h_3 digits =>
      obtain ⟨more, hmore, rfl⟩ := Option.map_eq_some_iff.mp h
      have hle := digitsLength?_le hmore
      simp only [List.length_cons]
      omega
  case h_4 => exact digitsLength?_le h

/-- A number is as long as it is alone. -/
theorem numberLength?_append (text : List Char) (hrest : Follows numberEnds rest) :
    numberLength? (text ++ rest) = numberLength? text := by
  have hunits (measured : Option Nat)
      (hle : ∀ length, measured = some length → length ≤ text.length) :
      measured.bind (withUnit? (text ++ rest)) = measured.bind (withUnit? text) := by
    cases measured with
    | none => rfl
    | some length => exact withUnit?_append _ hrest (hle length rfl)
  have hhead : (text ++ rest).head?.any Char.isDigit = text.head?.any Char.isDigit := by
    cases text with
    | cons c text => rfl
    | nil =>
        have hends : ∀ c ∈ numberEnds, c.isDigit = false := List.all_iff_forall_prop.mp (by decide)
        cases rest with
        | nil => rfl
        | cons c rest => simp [hends c (follows_cons_iff.mp hrest)]
  unfold numberLength?
  rw [hhead, decimalLength?_append _ hrest, wholeLength?_append _ hrest,
    hunits _ fun _ => decimalLength?_le, hunits _ fun _ => wholeLength?_le]

end Storyboard.Code
