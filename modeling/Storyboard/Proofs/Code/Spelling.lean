import Storyboard.Proofs.Code.Cutting

/-!
# How tokens are spelled

The words and the numbers that a text is cut into are not empty, and no character stands in them
that ends a number; a word begins with a character that words begin with.  This is shown of each way
to cut the beginning of a text (`allClear_cut?`), and then of all the code that a text is read as
(`isClear_of_read?`).
-/

namespace Storyboard.Code

open Storyboard.Text

/-- No character of the text ends a number. -/
def Clear (text : List Char) : Prop := ∀ c ∈ text, c ∉ numberEnds

/-- How the token may be spelled if it is a word or a number. -/
def Token.IsClear : Token → Prop
  | .word spelling => startsWord spelling.toList = true ∧ Clear spelling.toList
  | .number spelling => spelling.toList ≠ [] ∧ Clear spelling.toList
  | .sign _ _ | .text _ | .literal _ => True

variable {c : Char} {input text rest : List Char} {lexemes : List Lexeme} {length whole : Nat}

theorem clear_cons_iff : Clear (c :: text) ↔ c ∉ numberEnds ∧ Clear text :=
  List.forall_mem_cons

/-- All words and numbers among the lexemes are spelled like one. -/
def AllClear (lexemes : List Lexeme) : Prop := ∀ token, .token token ∈ lexemes → token.IsClear

theorem allClear_token {token : Token} (h : token.IsClear) : AllClear [.token token] := by
  intro other hother
  simp only [List.mem_singleton, Lexeme.token.injEq] at hother
  exact hother ▸ h

theorem allClear_append {more : List Lexeme} (h : AllClear lexemes) (hmore : AllClear more) :
    AllClear (lexemes ++ more) :=
  fun token htoken => (List.mem_append.mp htoken).elim (h token) (hmore token)

/-! ## Words -/

/-- The word at the beginning is spelled like one. -/
theorem clear_take_wordLength (h : wordLength input ≠ 0) :
    startsWord (input.take (wordLength input)) = true ∧ Clear (input.take (wordLength input)) := by
  cases input with
  | nil => exact absurd rfl h
  | cons c input =>
      rw [wordLength] at h ⊢
      split at h
      case isFalse => exact absurd rfl h
      case isTrue hc =>
        have htake : input.take (input.takeWhile isWordRest).length = input.takeWhile isWordRest :=
          (List.prefix_iff_eq_take.mp (List.takeWhile_prefix isWordRest)).symm
        rw [if_pos hc, List.take_succ_cons, htake]
        refine ⟨hc, clear_cons_iff.mpr ⟨fun hend => ?_, fun d hd hend => ?_⟩⟩
        · rw [(no_word_of_mem_wordEnds (mem_wordEnds hend)).1] at hc
          cases hc
        · have hrest : isWordRest d = true := List.mem_takeWhile_imp hd
          rw [(no_word_of_mem_wordEnds (mem_wordEnds hend)).2] at hrest
          cases hrest

theorem allClear_word? (h : word? input = some (lexemes, length)) : AllClear lexemes := by
  unfold word? at h
  split at h
  · cases h
  · simp only [Option.ite_none_left_eq_some, Bool.or_eq_true, not_or, Option.some.injEq,
      Prod.mk.injEq] at h
    obtain ⟨⟨hlength, -⟩, rfl, -⟩ := h
    apply allClear_token
    rw [Token.IsClear, String.toList_ofList]
    split at hlength
    case isTrue hraw =>
      -- the mark of a raw word is a part of its spelling
      obtain ⟨word, rfl⟩ : ∃ word, input = 'r' :: '#' :: word := by
        refine ⟨input.drop 2, ?_⟩
        have hsplit := List.take_append_drop 2 input
        rw [beq_iff_eq.mp hraw] at hsplit
        exact hsplit.symm
      have hpos : wordLength word ≠ 0 := by simpa using hlength
      have hword := clear_take_wordLength hpos
      have hstarts : isWordStart 'r' = true := isWordStart_of_isLetter rfl
      rw [if_pos hraw, Nat.add_comm]
      refine ⟨hstarts, clear_cons_iff.mpr ⟨by decide, clear_cons_iff.mpr ⟨by decide, hword.2⟩⟩⟩
    case isFalse hraw =>
      rw [if_neg hraw, List.drop_zero, Nat.zero_add]
      exact clear_take_wordLength (by simpa using hlength)

/-! ## Numbers -/

theorem length_le_of_withUnit? {all : Nat} (h : withUnit? input length = some all)
    (hle : length ≤ input.length) : length ≤ all ∧ all ≤ input.length := by
  unfold withUnit? at h
  simp only [Option.ite_none_left_eq_some, Option.some.injEq] at h
  obtain ⟨-, rfl⟩ := h
  have hunit := wordLength_le (input.drop length)
  rw [List.length_drop] at hunit
  omega

theorem pos_of_decimalLength? (h : decimalLength? input = some length) : 0 < length := by
  unfold decimalLength? at h
  simp only at h
  split at h
  · split at h
    · cases h
    · split at h <;> cases h <;> omega
  · obtain ⟨more, -, rfl⟩ := Option.map_eq_some_iff.mp h
    omega
  · obtain ⟨more, -, rfl⟩ := Option.map_eq_some_iff.mp h
    omega
  · cases h

theorem pos_of_digitsLength? {base : Nat} (h : digitsLength? base input = some length) :
    0 < length := by
  unfold digitsLength? at h
  simp only [Option.ite_none_right_eq_some, Bool.and_eq_true, Option.some.injEq] at h
  obtain ⟨⟨hany, -⟩, rfl⟩ := h
  obtain ⟨c, hc, -⟩ := List.any_eq_true.mp hany
  exact List.length_pos_of_mem hc

theorem pos_of_wholeLength? (h : wholeLength? input = some length) : 0 < length := by
  unfold wholeLength? at h
  split at h
  case h_1 digits | h_2 digits | h_3 digits =>
    obtain ⟨more, -, rfl⟩ := Option.map_eq_some_iff.mp h
    omega
  case h_4 => exact pos_of_digitsLength? h

theorem length_of_numberLength? (h : numberLength? input = some length) :
    0 < length ∧ length ≤ input.length := by
  have hunit {measured : Option Nat} (hmeasured : measured.bind (withUnit? input) = some length)
      (hall : ∀ whole, measured = some whole → 0 < whole ∧ whole ≤ input.length) :
      0 < length ∧ length ≤ input.length := by
    obtain ⟨whole, hwhole, hlength⟩ := Option.bind_eq_some_iff.mp hmeasured
    obtain ⟨hpos, hle⟩ := hall whole hwhole
    have hbounds := length_le_of_withUnit? hlength hle
    omega
  unfold numberLength? at h
  split at h
  · split at h
    case h_1 heq =>
      cases h
      exact hunit heq fun whole hwhole => ⟨pos_of_decimalLength? hwhole, decimalLength?_le hwhole⟩
    case h_2 =>
      exact hunit h fun whole hwhole => ⟨pos_of_wholeLength? hwhole, wholeLength?_le hwhole⟩
  · cases h

/-- The number at the beginning is spelled like one: it goes no further than the characters that end
no number. -/
theorem clear_take_numberLength? (h : numberLength? input = some length) :
    input.take length ≠ [] ∧ Clear (input.take length) := by
  have hsplit := List.takeWhile_append_dropWhile (p := fun c => !numberEnds.contains c) (l := input)
  have hclear : Clear (input.takeWhile fun c => !numberEnds.contains c) := by
    intro c hc
    simpa using List.mem_takeWhile_imp hc
  have hends : Follows numberEnds (input.dropWhile fun c => !numberEnds.contains c) := by
    intro c hc
    have hnot := List.head?_dropWhile_not (fun c => !numberEnds.contains c) input
    rw [Option.mem_def.mp hc] at hnot
    simpa using hnot
  have hpos := (length_of_numberLength? h).1
  rw [← hsplit, numberLength?_append _ hends] at h
  have hle := (length_of_numberLength? h).2
  rw [← hsplit, List.take_append_of_le_length hle]
  refine ⟨fun hnil => ?_, fun c hc => hclear c (List.mem_of_mem_take hc)⟩
  have hlength := congrArg List.length hnil
  rw [List.length_take, List.length_nil] at hlength
  omega

/-! ## Cutting -/

theorem allClear_documentation? {isInner : Bool} {contents : List Char}
    (h : documentation? isInner contents = some lexemes) : AllClear lexemes := by
  have hstarts : isWordStart 'd' = true := isWordStart_of_isLetter rfl
  have hdoc : (Token.word "doc").IsClear := ⟨hstarts, by simp [Clear, numberEnds]⟩
  unfold documentation? at h
  simp only [Option.ite_none_left_eq_some, Option.some.injEq] at h
  obtain ⟨-, rfl⟩ := h
  intro token htoken
  cases isInner <;> simp at htoken <;>
    rcases htoken with rfl | rfl | rfl | rfl | rfl <;> first | exact hdoc | trivial

theorem allClear_slash? (h : slash? input = some (lexemes, length)) : AllClear lexemes := by
  have hnone : AllClear [] := fun _ htoken => absurd htoken List.not_mem_nil
  have hline {isInner : Bool} {skipped : Nat} {input : List Char}
      (h : lineDocumentation? isInner skipped input = some (lexemes, length)) :
      AllClear lexemes := by
    obtain ⟨found, hfound, heq⟩ := Option.map_eq_some_iff.mp h
    cases heq
    exact allClear_documentation? hfound
  have hblock {isInner : Bool} {input : List Char}
      (h : blockDocumentation? isInner input = some (lexemes, length)) : AllClear lexemes := by
    unfold blockDocumentation? at h
    split at h
    · cases h
    · obtain ⟨found, hfound, heq⟩ := Option.map_eq_some_iff.mp h
      cases heq
      exact allClear_documentation? hfound
  have hskipped {input : List Char}
      (h : ((blockContents? 0 input).map fun contents =>
        (([] : List Lexeme), contents.length + 3)) = some (lexemes, length)) :
      AllClear lexemes := by
    obtain ⟨contents, -, heq⟩ := Option.map_eq_some_iff.mp h
    cases heq
    exact hnone
  unfold slash? at h
  split at h
  · cases h; exact hnone
  · exact hline h
  · exact hline h
  · cases h; exact hnone
  · cases h; exact hnone
  · split at h
    · exact hskipped h
    · exact hblock h
    · exact hblock h
    · exact hskipped h
  · cases h
    exact allClear_token trivial

theorem allClear_apostrophe? (h : apostrophe? input = some (lexemes, length)) :
    AllClear lexemes := by
  unfold apostrophe? at h
  split at h
  · cases h
    exact allClear_token trivial
  · simp only [Option.ite_none_left_eq_some, Option.some.injEq, Prod.mk.injEq] at h
    obtain ⟨-, rfl, -⟩ := h
    exact allClear_token trivial

/-- Whatever a text begins with is spelled like what it is. -/
theorem allClear_cut? (h : cut? c rest = some (lexemes, length)) : AllClear lexemes := by
  have hnone : AllClear [] := fun _ htoken => absurd htoken List.not_mem_nil
  have htext {found : Option (List Char × Nat)} (h : found.map textCut = some (lexemes, length)) :
      AllClear lexemes := by
    obtain ⟨text, -, heq⟩ := Option.map_eq_some_iff.mp h
    cases heq
    exact allClear_token trivial
  unfold cut? at h
  split at h
  · cases h; exact allClear_token trivial
  split at h
  · cases h; exact hnone
  split at h
  · exact allClear_slash? h
  split at h
  · cases h
    simp [AllClear]
  · cases h
    simp [AllClear]
  split at h
  · exact htext h
  split at h
  · exact allClear_apostrophe? h
  split at h
  case h_1 =>
    cases h
    exact allClear_token trivial
  case h_2 =>
    cases h
    exact allClear_token trivial
  case h_3 hnumber =>
    cases h
    have hclear := clear_take_numberLength? hnumber
    exact allClear_token (by simpa [Token.IsClear] using hclear)
  case h_4 =>
    split at h
    · cases h
      exact allClear_token trivial
    · exact allClear_word? h

theorem allClear_lexemesFrom? (h : lexemesFrom? input = some lexemes) : AllClear lexemes := by
  fun_induction lexemesFrom? input generalizing lexemes with
  | case1 =>
      cases h
      exact fun _ htoken => absurd htoken List.not_mem_nil
  | case2 => cases h
  | case3 c rest first length hcut ih =>
      obtain ⟨more, hmore, rfl⟩ := Option.map_eq_some_iff.mp h
      exact allClear_append (allClear_cut? hcut) (ih hmore)

/-! ## Whole texts -/

/-- All words and numbers of the code are spelled like one. -/
def IsClear : Code → Prop
  | .done => True
  | .token head rest => head.IsClear ∧ rest.IsClear
  | .group _ inner rest => inner.IsClear ∧ rest.IsClear

/-- Of clear lexemes nothing but clear code is made, both before the next bracket that closes and
behind the others. -/
theorem isClear_of_behind? {behind : Behind} (h : behind? lexemes = some behind)
    (hclear : AllClear lexemes) :
    behind.code.IsClear ∧ ∀ closed ∈ behind.closed, closed.2.IsClear := by
  induction lexemes generalizing behind with
  | nil =>
      cases h
      exact ⟨trivial, fun _ hclosed => absurd hclosed List.not_mem_nil⟩
  | cons lexeme lexemes ih =>
      obtain ⟨later, hlater, hextend⟩ := Option.bind_eq_some_iff.mp h
      obtain ⟨hcode, hclosed⟩ :=
        ih hlater fun token htoken => hclear token (List.mem_cons_of_mem _ htoken)
      cases lexeme with
      | token head =>
          cases hextend
          exact ⟨⟨hclear head List.mem_cons_self, hcode⟩, hclosed⟩
      | closing bracket =>
          cases hextend
          exact ⟨trivial, List.forall_mem_cons.mpr ⟨hcode, hclosed⟩⟩
      | opening bracket =>
          unfold Behind.extend? at hextend
          simp only at hextend
          split at hextend
          · cases hextend
          · rename_i partner rest closed heq
            rw [heq] at hclosed
            obtain ⟨hrest, hclosed⟩ := List.forall_mem_cons.mp hclosed
            simp only [Option.ite_none_right_eq_some, Option.some.injEq] at hextend
            obtain ⟨-, rfl⟩ := hextend
            exact ⟨⟨hcode, hrest⟩, hclosed⟩

/-- The words and the numbers of code that is read from a text are spelled like one. -/
theorem isClear_of_read? {input : String} {code : Code} (h : read? input = some code) :
    code.IsClear := by
  obtain ⟨lexemes, hlexemes, hassemble⟩ := Option.bind_eq_some_iff.mp h
  unfold assemble? at hassemble
  split at hassemble
  · rename_i found hbehind
    cases hassemble
    exact (isClear_of_behind? hbehind (allClear_lexemesFrom? hlexemes)).1
  · cases hassemble

end Storyboard.Code
