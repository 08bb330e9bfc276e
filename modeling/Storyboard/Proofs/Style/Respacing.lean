import Storyboard.Proofs.Style.Extension
import Storyboard.Proofs.Style.Placement
import Storyboard.Proofs.Style.Scanning

/-!
# Text that is spaced anew

The blanks of a text can be changed without changing its tokens, and so without changing the style
(`parse_respaced`).  A gap may only be closed next to a mark, for elsewhere two tokens could become
one; but tokens that stood side by side may go on doing so.  What a token is read from there is
itself and the first character of the next one, whatever comes later
(`Lexeme.firstToken?_of_first`).
-/

namespace Storyboard.Style

open Storyboard.Text

/-! ## Other spacings -/

/-- Whether the kind is that of a parenthesis, a colon, a semicolon or a comma. -/
def TokenKind.isMark : TokenKind → Bool
  | .openingParenthesis | .closingParenthesis | .colon | .semicolon | .comma => true
  | _ => false

/-- Nothing has to stand between two tokens: nothing did, or one of them is a mark. -/
def Token.MayTouch (earlier later : Token) : Prop :=
  earlier.stop = later.position ∨ earlier.kind.isMark = true ∨ later.kind.isMark = true

/-- The text is the texts of the tokens with blanks around them, which are left out before a token
only if it may touch the one before it.  `last` is the token before the text, if there is one. -/
inductive Respaced : Option Token → List Token → List Char → Prop
  | done {last : Option Token} (gap : List Char) (hgap : ∀ c ∈ gap, c ∈ blanks) :
      Respaced last [] gap
  | token {last : Option Token} {token : Token} {tokens : List Token} {text : List Char}
      (gap : List Char) (hgap : ∀ c ∈ gap, c ∈ blanks)
      (htouch : gap = [] → ∀ earlier ∈ last, earlier.MayTouch token)
      (htext : Respaced (some token) tokens text) :
      Respaced last (token :: tokens) (gap ++ (token.text.toList ++ text))

variable {position : Nat} {text other rest : List Char} {token : Token} {tokens : List Token}
  {lexeme next : Lexeme}

/-! ## Where lexemes are read again -/

theorem TokenKind.exists_mark {kind : TokenKind} (h : kind.isMark = true) :
    ∃ c ∈ marks, kind.pattern = .char c := by
  cases kind with
  | openingParenthesis | closingParenthesis | colon | semicolon | comma =>
      exact ⟨_, by decide, rfl⟩
  | _ => cases h

theorem Lexeme.exists_mark (h : lexeme.kind.isMark = true) : ∃ c ∈ marks, lexeme.text = [c] := by
  obtain ⟨c, hc, hpattern⟩ := TokenKind.exists_mark h
  exact ⟨c, hc, Lexeme.text_eq_singleton hpattern⟩

/-- A lexeme is read before what begins with a blank, and before nothing. -/
theorem Lexeme.apart_gap {gap : List Char} (hgap : ∀ c ∈ gap, c ∈ blanks)
    (h : gap = [] → lexeme.Apart rest) : lexeme.Apart (gap ++ rest) := by
  cases gap with
  | nil => exact h rfl
  | cons c gap => exact Lexeme.apart_cons (List.mem_append_right _ (hgap c List.mem_cons_self))

/-- A token that is scanned is a lexeme, and if it stands at the beginning, the text begins with it.
-/
theorem Scans.exists_lexeme (h : Scans rest position text (token :: tokens)) :
    ∃ lexeme : Lexeme, token.Is lexeme ∧ (token.position = position → lexeme.text <+: text) := by
  generalize htokens : token :: tokens = all at h
  induction h with
  | done => cases htokens
  | @blank position c text all _ hscans ih =>
      subst htokens
      obtain ⟨lexeme, hlexeme, -⟩ := ih rfl
      refine ⟨lexeme, hlexeme, fun hposition => ?_⟩
      -- a token behind a blank does not stand at the beginning
      have hle := hscans.position_le token List.mem_cons_self
      have hpos := c.utf8Size_pos
      omega
  | @lexeme position lexeme text all _ _ _ =>
      obtain ⟨rfl, -⟩ := List.cons.inj htokens
      exact ⟨lexeme, ⟨rfl, rfl⟩, fun _ => List.prefix_append lexeme.text text⟩

/-- A lexeme that was read before tokens is read before any other spacing of them. -/
theorem Scans.firstToken?_respaced
    (hfirst : firstToken? (lexeme.text ++ text) = some (lexeme.kind, lexeme.text.length))
    (hscans : Scans [] (position + byteLength lexeme.text) text tokens)
    (hother : Respaced (some ⟨lexeme.kind, String.ofList lexeme.text, position⟩) tokens other) :
    firstToken? (lexeme.text ++ other) = some (lexeme.kind, lexeme.text.length) := by
  cases hother with
  | done gap hgap =>
      apply lexeme.firstToken?_append
      rw [← List.append_nil other]
      exact Lexeme.apart_gap hgap fun _ => Or.inr (by simp)
  | @token _ token tokens behind gap hgap htouch htext =>
      obtain ⟨next, hnext, hprefix⟩ := hscans.exists_lexeme
      have htoken : token.text.toList = next.text := by rw [hnext.text_eq, String.toList_ofList]
      rw [htoken]
      by_cases hempty : gap = []
      · subst hempty
        rw [List.nil_append]
        rcases htouch rfl _ rfl with hadjacent | hmark | hmark
        · -- the next lexeme stood here before, so the text begins with the same character
          rw [Token.stop, utf8ByteSize_ofList] at hadjacent
          obtain ⟨tail, rfl⟩ := hprefix hadjacent.symm
          obtain ⟨c, body, hcons⟩ := List.exists_cons_of_ne_nil next.nonempty
          have hleading : TokenKind.leading? c ≠ none := by
            rw [next.leading?_eq hcons]
            exact Option.some_ne_none _
          rw [hcons] at hfirst ⊢
          exact Lexeme.firstToken?_of_first hleading hfirst
        · obtain ⟨c, hc, hmark⟩ := Lexeme.exists_mark hmark
          exact lexeme.firstToken?_append (Lexeme.apart_of_mark hmark hc)
        · rw [hnext.kind_eq] at hmark
          obtain ⟨c, hc, hmark⟩ := Lexeme.exists_mark hmark
          rw [hmark]
          exact lexeme.firstToken?_append (Lexeme.apart_cons (mem_separators_of_mem_marks hc))
      · exact lexeme.firstToken?_append (Lexeme.apart_gap hgap fun hnil => absurd hnil hempty)

/-- Another spacing of tokens is cut into the same lexemes. -/
theorem Scans.cuts_respaced {last : Option Token} (hscans : Scans [] position text tokens)
    (hother : Respaced last tokens other) :
    ∃ lexemes, Cuts other lexemes ∧ List.Forall₂ Token.Is tokens lexemes := by
  induction hscans generalizing last other with
  | done =>
      cases hother with
      | done gap hgap =>
          have hcuts := Cuts.done.gap hgap
          rw [List.append_nil] at hcuts
          exact ⟨[], hcuts, .nil⟩
  | blank _ _ ih => exact ih hother
  | @lexeme position lexeme text tokens hfirst hscans ih =>
      cases hother with
      | @token _ _ _ behind gap hgap _ htext =>
          obtain ⟨lexemes, hcuts, hall⟩ := ih htext
          rw [List.append_nil] at hfirst
          have hread := hscans.firstToken?_respaced hfirst htext
          refine ⟨lexeme :: lexemes, ?_, .cons ⟨rfl, rfl⟩ hall⟩
          rw [String.toList_ofList]
          exact (Cuts.lexeme hread hcuts).gap hgap

/-! ## Styles -/

/-- Any other spacing of a text has the same tokens, and the same style or the same fault. -/
theorem parse_respaced {input other : String} {tokens : List Token}
    (htokens : tokenize input = .ok tokens) (hother : Respaced none tokens other.toList) :
    ∃ others, tokenize other = .ok others ∧ List.Forall₂ Token.Alike tokens others ∧
      SameOutcome tokens others (parse input) (parse other) := by
  have hscans := scans_tokensFrom 0 input.toList
  rw [← tokenize, htokens] at hscans
  obtain ⟨lexemes, hcuts, hlexemes⟩ := hscans.cuts_respaced hother
  obtain ⟨others, hothers, hsame⟩ := hcuts.tokensFrom 0
  have halike := alike_of_is hlexemes hsame
  refine ⟨others, hothers, halike, ?_⟩
  rw [← tokenize] at hothers
  simp only [parse, htokens, hothers]
  exact readTokens_alike halike .ready empty

/-- The tokens of `w:10-5#fff00000f0`. -/
def crampedTokens : List Token :=
  [⟨.identifier, "w", 0⟩, ⟨.colon, ":", 1⟩, ⟨.number, "10", 2⟩, ⟨.number, "-5", 4⟩,
    ⟨.hexColor, "#fff00000", 6⟩, ⟨.identifier, "f0", 15⟩]

theorem parse_respaced_cramped :
    tokenize "w:10-5#fff00000f0" = .ok crampedTokens ∧
      Respaced none crampedTokens "w\t: 10-5\n#fff00000f0 ".toList ∧
      ∃ others, tokenize "w\t: 10-5\n#fff00000f0 " = .ok others ∧
        List.Forall₂ Token.Alike crampedTokens others ∧
        SameOutcome crampedTokens others (parse "w:10-5#fff00000f0")
          (parse "w\t: 10-5\n#fff00000f0 ") := by
  have htokens : tokenize "w:10-5#fff00000f0" = .ok crampedTokens := by decide +kernel
  have hgap {gap : List Char} (hall : (gap.all fun c => decide (c ∈ blanks)) = true) :
      ∀ c ∈ gap, c ∈ blanks := by simpa using hall
  have hother : Respaced none crampedTokens "w\t: 10-5\n#fff00000f0 ".toList :=
    .token [] (hgap rfl) (by simp) <|
    .token ['\t'] (hgap (by decide)) (by simp) <|
    .token [' '] (hgap (by decide)) (by simp) <|
    .token [] (hgap rfl) (fun _ _ hlast => by cases hlast; exact Or.inl rfl) <|
    .token ['\n'] (hgap (by decide)) (by simp) <|
    .token [] (hgap rfl) (fun _ _ hlast => by cases hlast; exact Or.inl rfl) <|
    .done [' '] (hgap (by decide))
  exact ⟨htokens, hother, parse_respaced htokens hother⟩

end Storyboard.Style
