import Storyboard.Proofs.Style.Cutting
import Storyboard.Proofs.Style.Kind

/-!
# Where the tokens of a text lie

The tokens of a text are slices of it, in order and apart from each other, with nothing but blanks
between them, and each is the longest token that begins where it begins (`Lexed`).  A text that is
refused is tokens and blanks up to the place that is reported, and there no token begins (`Stuck`).
`tokenize_lossless` says that one of the two always holds.

In between stands `Scans`, which follows the reading of tokens and knows what comes after the text
that has been read: a longest token is one with regard to everything that follows it.
-/

namespace Storyboard.Style

open Storyboard.Text

/-! ## What is said about tokens -/

/-- The text is the longest beginning of the input that fits a kind, and it fits that kind only. -/
structure LongestToken (input : List Char) (kind : TokenKind) (text : List Char) : Prop where
  nonempty : text ≠ []
  begins : text <+: input
  matches_iff : ∀ other : TokenKind, other.pattern.Matches text ↔ other = kind
  longest : ∀ (other : TokenKind) (longer : List Char), longer <+: input →
    other.pattern.Matches longer → longer.length ≤ text.length

/-- The byte position behind a token. -/
def Token.stop (token : Token) : Nat := token.position + token.text.utf8ByteSize

/-- How tokens lie in a text that another one follows. -/
structure Lexed (text rest : String) (tokens : List Token) : Prop where
  /-- A token is the slice at its position, and the longest one there. -/
  slice : ∀ token ∈ tokens, ∃ before after, text = before ++ token.text ++ after ∧
    before.utf8ByteSize = token.position ∧
    LongestToken (token.text ++ after ++ rest).toList token.kind token.text.toList
  increasing : tokens.Pairwise fun earlier later => earlier.position < later.position
  apart : tokens.Pairwise fun earlier later => earlier.stop ≤ later.position
  /-- A character that lies in no token is a blank. -/
  blank_outside : ∀ before c after, text = before ++ String.singleton c ++ after →
    (∀ token ∈ tokens,
      ¬ (token.position ≤ before.utf8ByteSize ∧ before.utf8ByteSize < token.stop)) → c ∈ blanks

/-- No token begins the text, nor does a blank, and something of it is reported. -/
structure Stuck (text found : String) : Prop where
  not_blank : ∃ c, text.toList.head? = some c ∧ c ∉ blanks
  no_token : ∀ (kind : TokenKind) (beginning : List Char), beginning ≠ [] →
    beginning <+: text.toList → ¬ kind.pattern.Matches beginning
  found_nonempty : found ≠ ""
  found_begins : found.toList <+: text.toList

/-! ## The longest token -/

theorem Lexeme.longestToken (lexeme : Lexeme) {rest : List Char}
    (hfirst : firstToken? (lexeme.text ++ rest) = some (lexeme.kind, lexeme.text.length)) :
    LongestToken (lexeme.text ++ rest) lexeme.kind lexeme.text where
  nonempty := lexeme.nonempty
  begins := List.prefix_append lexeme.text rest
  matches_iff other := by
    constructor
    · exact TokenKind.eq_of_matches lexeme.nonempty lexeme.matches_text
    · rintro rfl
      exact lexeme.matches_text
  longest other longer hlonger hmatches :=
    le_of_fitsUpTo hfirst (fitsUpTo_length_of_begins hlonger hmatches)

/-- Where no token is found, none begins. -/
theorem not_matches_of_firstToken? {input : List Char}
    (h : ∀ kind length, firstToken? input ≠ some (kind, length + 1)) (kind : TokenKind)
    {beginning : List Char} (hnonempty : beginning ≠ []) (hbegins : beginning <+: input) :
    ¬ kind.pattern.Matches beginning := by
  intro hmatches
  have hfits := fitsUpTo_length_of_begins hbegins hmatches
  cases hfirst : firstToken? input with
  | none =>
      have hlongest := isLongest_firstToken? input
      rw [hfirst] at hlongest
      exact Pattern.longest?_eq_none_iff.mp (hlongest kind kind.mem_all) _ hfits
  | some found =>
      obtain ⟨other, length⟩ := found
      have hle := le_of_fitsUpTo hfirst hfits
      have hpos := List.length_pos_iff.mpr hnonempty
      cases length with
      | zero => omega
      | succ length => exact h other length hfirst

/-! ## Scanning -/

/-- From a byte position on, the text is read as tokens and blanks when `rest` follows it. -/
inductive Scans (rest : List Char) : Nat → List Char → List Token → Prop
  | done (position : Nat) : Scans rest position [] []
  | blank {position : Nat} {c : Char} {text : List Char} {tokens : List Token}
      (hblank : isBlank c = true) (htext : Scans rest (position + c.utf8Size) text tokens) :
      Scans rest position (c :: text) tokens
  | lexeme {position : Nat} {lexeme : Lexeme} {text : List Char} {tokens : List Token}
      (hfirst : firstToken? (lexeme.text ++ (text ++ rest))
        = some (lexeme.kind, lexeme.text.length))
      (htext : Scans rest (position + byteLength lexeme.text) text tokens) :
      Scans rest position (lexeme.text ++ text)
        (⟨lexeme.kind, String.ofList lexeme.text, position⟩ :: tokens)

/-- The reading of tokens either scans the text or stops where no token begins. -/
theorem scans_tokensFrom (position : Nat) (input : List Char) :
    match tokensFrom position input with
    | .ok tokens => Scans [] position input tokens
    | .error fault => ∃ text c rest tokens, input = text ++ c :: rest ∧
        Scans (c :: rest) position text tokens ∧ isBlank c = false ∧
        (∀ kind length, firstToken? (c :: rest) ≠ some (kind, length + 1)) ∧
        fault = .invalidCharacter (position + byteLength text) (invalidPart c rest) := by
  fun_induction tokensFrom position input with
  | case1 position => exact .done position
  | case2 position c rest hblank ih =>
      cases htokens : tokensFrom (position + c.utf8Size) rest with
      | ok tokens =>
          rw [htokens] at ih
          exact .blank hblank ih
      | error fault =>
          rw [htokens] at ih
          obtain ⟨text, d, later, tokens, rfl, hscans, hstop⟩ := ih
          refine ⟨c :: text, d, later, tokens, rfl, .blank hblank hscans, ?_⟩
          rwa [byteLength_cons, ← Nat.add_assoc]
  | case3 position c rest hblank hnone =>
      refine ⟨[], c, rest, [], rfl, .done position, by simpa using hblank, ?_, rfl⟩
      simp [hnone]
  | case4 position c rest hblank kind hzero =>
      refine ⟨[], c, rest, [], rfl, .done position, by simpa using hblank, ?_, rfl⟩
      simp [hzero]
  | case5 position c rest hblank kind length hfirst text fault hfault ih =>
      rw [hfault] at ih
      obtain ⟨scanned, d, later, tokens, hdrop, hscans, hblank', hstop, hfault'⟩ := ih
      obtain ⟨lexeme, -, htext, hsplit, hwhole⟩ := exists_lexeme hfirst
      have hlexeme : text = lexeme.text := htext.symm
      have hrest : (c :: rest).drop (length + 1) = scanned ++ d :: later := hdrop
      rw [hlexeme] at hscans hfault'
      rw [hrest] at hsplit hwhole
      refine ⟨lexeme.text ++ scanned, d, later, _, ?_, .lexeme hwhole hscans, hblank', hstop, ?_⟩
      · rw [List.append_assoc, hsplit]
      · rw [hfault', byteLength_append, Nat.add_assoc]
  | case6 position c rest hblank kind length hfirst text later hlater ih =>
      rw [hlater] at ih
      obtain ⟨lexeme, rfl, htext, hsplit, hwhole⟩ := exists_lexeme hfirst
      have hlexeme : text = lexeme.text := htext.symm
      rw [hlexeme] at ih ⊢
      have hscans : Scans [] position (lexeme.text ++ rest.drop length)
          (⟨lexeme.kind, String.ofList lexeme.text, position⟩ :: later) := by
        refine .lexeme ?_ ih
        rw [List.append_nil]
        exact hwhole
      rwa [show lexeme.text ++ rest.drop length = c :: rest from hsplit] at hscans

/-! ## What has been scanned -/

namespace Scans

variable {rest text : List Char} {position : Nat} {tokens : List Token}

theorem position_le (h : Scans rest position text tokens) :
    ∀ token ∈ tokens, position ≤ token.position := by
  induction h with
  | done position => simp
  | blank hblank htext ih =>
      intro token htoken
      exact Nat.le_trans (Nat.le_add_right _ _) (ih token htoken)
  | lexeme hfirst htext ih =>
      intro token htoken
      rcases List.mem_cons.mp htoken with rfl | htoken
      · exact Nat.le_refl _
      · exact Nat.le_trans (Nat.le_add_right _ _) (ih token htoken)

theorem slice (h : Scans rest position text tokens) :
    ∀ token ∈ tokens, ∃ before after, text = before ++ token.text.toList ++ after ∧
      position + byteLength before = token.position ∧
      LongestToken (token.text.toList ++ after ++ rest) token.kind token.text.toList := by
  induction h with
  | done position => simp
  | @blank position c text tokens hblank htext ih =>
      intro token htoken
      obtain ⟨before, after, rfl, hposition, hlongest⟩ := ih token htoken
      refine ⟨c :: before, after, rfl, ?_, hlongest⟩
      rw [← hposition, byteLength_cons, Nat.add_assoc]
  | @lexeme position lexeme text tokens hfirst htext ih =>
      intro token htoken
      rcases List.mem_cons.mp htoken with rfl | htoken
      · refine ⟨[], text, by simp, rfl, ?_⟩
        rw [String.toList_ofList, List.append_assoc]
        exact lexeme.longestToken hfirst
      · obtain ⟨before, after, rfl, hposition, hlongest⟩ := ih token htoken
        refine ⟨lexeme.text ++ before, after, by simp, ?_, hlongest⟩
        rw [← hposition, byteLength_append, Nat.add_assoc]

theorem apart (h : Scans rest position text tokens) :
    tokens.Pairwise fun earlier later => earlier.stop ≤ later.position := by
  induction h with
  | done position => exact .nil
  | blank hblank htext ih => exact ih
  | lexeme hfirst htext ih =>
      refine List.pairwise_cons.mpr ⟨fun later hlater => ?_, ih⟩
      have hle := htext.position_le later hlater
      rwa [Token.stop, utf8ByteSize_ofList]

/-- A character that lies in no token is a blank. -/
theorem blank_outside (h : Scans rest position text tokens) {before after : List Char} {c : Char}
    (hc : text = before ++ c :: after)
    (houtside : ∀ token ∈ tokens, ¬ (token.position ≤ position + byteLength before ∧
      position + byteLength before < token.stop)) : c ∈ blanks := by
  induction h generalizing before with
  | done position => simp at hc
  | @blank position d text tokens hblank htext ih =>
      cases before with
      | nil =>
          obtain ⟨rfl, -⟩ := List.cons.inj hc
          exact mem_blanks_of_isBlank hblank
      | cons e before =>
          obtain ⟨rfl, htail⟩ := List.cons.inj hc
          apply ih htail
          rwa [byteLength_cons, ← Nat.add_assoc] at houtside
  | @lexeme position lexeme text tokens hfirst htext ih =>
      obtain ⟨hhead, htail⟩ := List.forall_mem_cons.mp houtside
      -- the character lies in the first token, or it comes after it
      rcases List.append_eq_append_iff.mp hc with ⟨gap, hbefore, hgap⟩ | ⟨gap, hlexeme, hgap⟩
      · subst hbefore
        apply ih hgap
        rwa [byteLength_append, ← Nat.add_assoc] at htail
      · cases gap with
        | nil =>
            rw [List.append_nil] at hlexeme
            rw [← hlexeme] at htail
            exact @ih [] hgap.symm htail
        | cons d gap =>
            exfalso
            apply hhead
            have hpos := d.utf8Size_pos
            rw [Token.stop, utf8ByteSize_ofList, hlexeme, byteLength_append, byteLength_cons]
            exact ⟨Nat.le_add_right _ _, by dsimp only; omega⟩

/-- What was scanned is read in the same way without what follows. -/
theorem tokensFrom_eq (h : Scans rest position text tokens) :
    tokensFrom position text = .ok tokens := by
  induction h with
  | done position => rw [tokensFrom]
  | blank hblank htext ih => rw [tokensFrom, if_pos hblank, ih]
  | @lexeme position lexeme text tokens hfirst htext ih =>
      have hshort : firstToken? (lexeme.text ++ text)
          = some (lexeme.kind, lexeme.text.length) := by
        rw [← List.append_assoc] at hfirst
        exact firstToken?_of_append hfirst (by simp)
      rw [tokensFrom_append position hshort, ih]
      rfl

/-- Tokens that are scanned from the beginning of a text lie in it. -/
theorem lexed (h : Scans rest 0 text tokens) :
    Lexed (String.ofList text) (String.ofList rest) tokens where
  slice token htoken := by
    obtain ⟨before, after, rfl, hposition, hlongest⟩ := h.slice token htoken
    refine ⟨String.ofList before, String.ofList after, ?_, ?_, ?_⟩
    · simp [String.ofList_append, String.append_assoc]
    · rw [utf8ByteSize_ofList, ← hposition, Nat.zero_add]
    · simpa using hlongest
  increasing := by
    refine h.apart.imp_of_mem fun {earlier later} hearlier _ hapart => ?_
    obtain ⟨before, after, -, -, hlongest⟩ := h.slice earlier hearlier
    have hsize : earlier.text.utf8ByteSize ≠ 0 := by
      rw [Ne, String.utf8ByteSize_eq_zero_iff, ← String.toList_eq_nil_iff]
      exact hlongest.nonempty
    rw [Token.stop] at hapart
    omega
  apart := h.apart
  blank_outside before c after htext houtside := by
    have hlist : text = before.toList ++ c :: after.toList := by
      have htoList := congrArg String.toList htext
      simpa using htoList
    apply h.blank_outside hlist
    simpa [← utf8ByteSize_ofList] using houtside

end Scans

theorem stuck_invalidPart {c : Char} {rest : List Char} (hblank : isBlank c = false)
    (hstop : ∀ kind length, firstToken? (c :: rest) ≠ some (kind, length + 1)) :
    Stuck (String.ofList (c :: rest)) (invalidPart c rest) where
  not_blank := by
    refine ⟨c, by simp, fun hmem => ?_⟩
    have hc : isBlank c = true := by simpa [isBlank, blanks, or_assoc] using hmem
    rw [hblank] at hc
    cases hc
  no_token kind beginning hnonempty hbegins := by
    rw [String.toList_ofList] at hbegins
    exact not_matches_of_firstToken? hstop kind hnonempty hbegins
  found_nonempty := by
    unfold invalidPart
    split <;> simp
  found_begins := by
    unfold invalidPart
    split
    · exact List.prefix_refl _
    · simp

/-- The tokens of a text lie in it without a gap that is not blank, or the text is refused at the
first place at which no token begins. -/
theorem tokenize_lossless (input : String) :
    match tokenize input with
    | .ok tokens => Lexed input "" tokens
    | .error (.invalidCharacter position found) => ∃ text rest tokens, input = text ++ rest ∧
        text.utf8ByteSize = position ∧ tokenize text = .ok tokens ∧ Lexed text rest tokens ∧
        Stuck rest found
    | .error _ => False := by
  have hscans := scans_tokensFrom 0 input.toList
  rw [← tokenize] at hscans
  cases htokens : tokenize input with
  | ok tokens =>
      rw [htokens] at hscans
      simpa using hscans.lexed
  | error fault =>
      rw [htokens] at hscans
      obtain ⟨text, c, rest, tokens, hinput, hscanned, hblank, hstop, rfl⟩ := hscans
      refine ⟨String.ofList text, String.ofList (c :: rest), tokens, ?_, ?_, ?_, hscanned.lexed,
        stuck_invalidPart hblank hstop⟩
      · rw [← String.ofList_append, ← hinput, String.ofList_toList]
      · rw [utf8ByteSize_ofList, Nat.zero_add]
      · rw [tokenize, String.toList_ofList]
        exact hscanned.tokensFrom_eq

end Storyboard.Style
