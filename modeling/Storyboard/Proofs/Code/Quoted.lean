import Storyboard.Code.Literal
import Storyboard.Text.Quoted

/-!
# Quoted texts are read back

A text in quotes is a literal of code, and the literal has the contents of the text
(`textFrom?_contents`).  Every character is read back from what is written for it: from itself, from
one of the short escapes, or from the hexadecimal digits of its code point.
-/

namespace Storyboard.Code

open Storyboard.Text

variable {c : Char} {rest : List Char}

/-! ## Code points in hexadecimal digits -/

/-- What holds of the digits of a number to base sixteen, the last one split off. -/
theorem toDigits_induction {motive : Nat → List Char → Prop}
    (single : ∀ n < 16, motive n [n.digitChar])
    (more : ∀ n, 16 ≤ n → motive (n / 16) (Nat.toDigits 16 (n / 16)) →
      motive n (Nat.toDigits 16 (n / 16) ++ [(n % 16).digitChar])) (n : Nat) :
    motive n (Nat.toDigits 16 n) := by
  induction n using Nat.strongRecOn with
  | ind n ih =>
      by_cases hlt : n < 16
      · rw [Nat.toDigits_of_lt_base hlt]
        exact single n hlt
      · rw [Nat.toDigits_of_base_le (by omega) (by omega)]
        exact more n (by omega) (ih (n / 16) (by omega))

theorem isHexDigit_digitChar {n : Nat} (h : n < 16) :
    isHexDigit n.digitChar = true ∧ hexValue n.digitChar = n := by
  have hall : ∀ n < 16, isHexDigit n.digitChar = true ∧ hexValue n.digitChar = n := by decide
  exact hall n h

theorem isHexDigit_of_mem_hexDigits (c : Char) : ∀ d ∈ hexDigits c, isHexDigit d = true := by
  refine toDigits_induction
    (motive := fun _ digits => ∀ d ∈ digits, isHexDigit d = true) ?_ ?_ c.toNat
  · intro n hn
    simpa using (isHexDigit_digitChar hn).1
  · intro n _ ih
    rw [List.forall_mem_append]
    exact ⟨ih, by simpa using (isHexDigit_digitChar (Nat.mod_lt n (by decide))).1⟩

theorem ne_of_mem_hexDigits {d other : Char} (h : d ∈ hexDigits c)
    (hother : isHexDigit other = false) :
    d ≠ other := by
  rintro rfl
  rw [isHexDigit_of_mem_hexDigits c d h] at hother
  cases hother

theorem hexNumber_hexDigits (c : Char) : hexNumber (hexDigits c) = c.toNat := by
  refine toDigits_induction (motive := fun n digits => hexNumber digits = n) ?_ ?_ c.toNat
  · intro n hn
    simpa [hexNumber] using (isHexDigit_digitChar hn).2
  · intro n _ ih
    have hdigit := (isHexDigit_digitChar (Nat.mod_lt n (show 0 < 16 by decide))).2
    rw [hexNumber] at ih
    rw [hexNumber, List.foldl_append, ih, List.foldl_cons, List.foldl_nil, hdigit]
    omega

theorem length_hexDigits_le (c : Char) : (hexDigits c).length ≤ 6 := by
  have hvalid : c.toNat < 0x110000 := by
    rcases c.valid with h | ⟨-, h⟩
    · exact Nat.lt_trans h (by decide)
    · exact h
  exact (Nat.length_toDigits_le_iff (by decide) (by decide)).2 (Nat.lt_trans hvalid (by decide))

theorem hexDigits_ne_nil (c : Char) : hexDigits c ≠ [] := by
  refine toDigits_induction (motive := fun _ digits => digits ≠ []) ?_ ?_ c.toNat
  · simp
  · simp

/-- The digits of a code point between braces are an escape. -/
theorem escape?_hexDigits (c : Char) (rest : List Char) :
    escape? .characters ('u' :: '\x7b' :: (hexDigits c ++ '\x7d' :: rest)) =
      some (c, (hexDigits c).length + 3) := by
  have hall := isHexDigit_of_mem_hexDigits c
  have hspelled : (hexDigits c ++ '\x7d' :: rest).takeWhile (fun d => isHexDigit d || d == '_') =
      hexDigits c := by
    rw [List.takeWhile_append_of_pos fun d hd => by simp [hall d hd]]
    simp [isHexDigit]
  have hdigits : (hexDigits c).filter (· != '_') = hexDigits c := by
    refine List.filter_eq_self.mpr fun d hd => ?_
    exact bne_iff_ne.mpr (ne_of_mem_hexDigits hd (by decide))
  have hhead : (hexDigits c).head?.any isHexDigit = true := by
    obtain ⟨d, digits, hcons⟩ := List.exists_cons_of_ne_nil (hexDigits_ne_nil c)
    rw [hcons]
    exact hall d (hcons ▸ List.mem_cons_self)
  have hvalid : c.toNat.isValidChar := c.valid
  simp only [escape?, hspelled, hdigits, hexNumber_hexDigits, hhead, length_hexDigits_le, hvalid,
    Content.admitsCodePoint, List.drop_left, List.head?_cons, decide_true, Bool.and_self,
    beq_self_eq_true, if_true, Char.ofNat_toNat]

/-! ## Characters -/

/-- A character is read back from what is written for it. -/
theorem textFrom?_quoteChar (c : Char) (rest : List Char) :
    textFrom? .characters (quoteChar c ++ rest) =
      (textFrom? .characters rest).map (extendText [c] (quoteChar c).length) := by
  unfold quoteChar
  split
  case h_7 hquote hbackslash _ hreturn _ _ =>
    split
    case isTrue =>
      have hescape := escape?_hexDigits c rest
      simp [textFrom?, hescape]
    case isFalse =>
      have hne : c ≠ '"' ∧ c ≠ '\\' ∧ c ≠ '\r' := ⟨hquote, hbackslash, hreturn⟩
      rw [List.singleton_append, textFrom?, Content.admits, if_pos rfl, List.length_singleton]
      all_goals simp [hne]
  all_goals simp [textFrom?, escape?]

/-- The contents of a text are read back from their written form. -/
theorem textFrom?_contents (contents rest : List Char) :
    textFrom? .characters (contents.flatMap quoteChar ++ '"' :: rest) =
      some (contents, (contents.flatMap quoteChar).length + (wordLength rest + 1)) := by
  induction contents with
  | nil => simp [textFrom?]
  | cons c contents ih =>
      rw [List.flatMap_cons, List.append_assoc, textFrom?_quoteChar, ih]
      simp only [Option.map_some, extendText, List.cons_append, List.nil_append, List.length_append]
      congr 2
      omega

/-! ## Line feeds -/

theorem lineFeed_notMem_quoteChar (c : Char) : '\n' ∉ quoteChar c := by
  unfold quoteChar
  split
  case h_7 hlineFeed _ _ _ =>
    split
    · intro hmem
      simp only [List.mem_append, List.mem_cons, List.not_mem_nil, or_false] at hmem
      rcases hmem with (hmem | hmem) | hmem
      · revert hmem
        decide
      · exact ne_of_mem_hexDigits hmem (by decide) rfl
      · cases hmem
    · simpa using Ne.symm hlineFeed
  all_goals decide

/-- A text in quotes stands on one line. -/
theorem lineFeed_notMem_quoteChars (text : List Char) : '\n' ∉ quoteChars text := by
  simp [quoteChars, lineFeed_notMem_quoteChar]

end Storyboard.Code
