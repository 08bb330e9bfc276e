import Storyboard.Proofs.Style.Grammar
import Storyboard.Proofs.Style.Placement

/-!
# Declaration lists compose

Two declaration lists with a semicolon between them are one list, in which the second has the last
word on every property that it declares (`parse_join`).  Two things have to be seen for this.  The
tokens of the first list stay what they are, whatever the list ends in, since no token goes on
across a semicolon unless it began with a quote, and then it has ended (`Cuts.join`).  And the
reader has come to the end of a segment when it gets to the semicolon, so that it goes on with the
second list as it would begin with it (`readTokens_join`).
-/

namespace Storyboard.Style

open Storyboard.Text

/-! ## Tokens end before a separator -/

/-- A text does not go on across a separator if it begins with a whole token. -/
theorem not_form_append_separator {text between more : List Char} {c : Char} (htext : Form text)
    (hnil : text ≠ []) (hseparator : c ∈ separators) : ¬ Form (text ++ between ++ c :: more) := by
  -- what has a separator in it is a mark or quoted, so the token at its beginning is not plain
  intro hlong
  have hnot : ¬ Plain text := by
    intro hplain
    obtain ⟨d, rest, rfl⟩ := List.exists_cons_of_ne_nil hnil
    have hfirst : d ∉ separators := hplain d List.mem_cons_self
    generalize hwhole : d :: rest ++ between ++ c :: more = long at hlong
    cases hlong with
    | mark hmark =>
        obtain ⟨rfl, -⟩ := List.cons.inj hwhole
        exact hfirst (mem_separators_of_mem_marks hmark)
    | quoted hquote =>
        obtain ⟨rfl, -⟩ := List.cons.inj hwhole
        exact hfirst (mem_separators_of_mem_quotes hquote)
    | plain hlong =>
        subst hwhole
        exact hlong c (by simp) hseparator
  obtain ⟨d, tail, hcons⟩ : ∃ d tail, between ++ c :: more = d :: tail :=
    List.exists_cons_of_ne_nil (by simp)
  rw [List.append_assoc, hcons] at hlong
  exact not_form_append htext hnil (Or.inl hnot) hlong

variable {first second : List Char} {lexemes more : List Lexeme}

/-- A text is cut as before when a separator and another text are put behind it. -/
theorem Cuts.join {c : Char} (hfirst : Cuts first lexemes) (hseparator : c ∈ separators)
    (hsecond : Cuts (c :: second) more) : Cuts (first ++ c :: second) (lexemes ++ more) := by
  induction hfirst with
  | done => exact hsecond
  | blank hblank _ ih => exact .blank hblank ih
  | @lexeme lexeme rest lexemes hlongest _ ih =>
      rw [List.append_assoc]
      refine .lexeme ?_ ih
      rw [← hlongest, ← List.append_assoc]
      apply firstToken?_append_eq
      rintro kind d later ⟨tail, htail⟩ hmatches
      obtain ⟨rfl, -⟩ := List.cons.inj htail
      exact not_form_append_separator lexeme.form lexeme.nonempty hseparator
        (form_of_matches hmatches)

/-! ## Reading one list after the other -/

variable {stage : Reading} {style result : Style} {tokens others : List Token}

/-- Where the tokens of an accepted list stand does not matter. -/
theorem readTokens_congr (h : readTokens stage style tokens = .ok result)
    (htokens : List.Forall₂ Token.Is tokens lexemes)
    (hothers : List.Forall₂ Token.Is others lexemes) :
    readTokens stage style others = .ok result := by
  have houtcome := readTokens_alike (alike_of_is htokens hothers) stage style
  rw [h] at houtcome
  generalize readTokens stage style others = outcome at houtcome
  cases houtcome
  rfl

/-- The reader goes on behind a semicolon with what has been declared before it. -/
theorem readTokens_join {semicolon : Token} (haccepted : Accepted tokens)
    (hsemicolon : semicolon.kind = .semicolon) (style : Style) (rest : List Token) :
    readTokens .ready style (tokens ++ semicolon :: rest) =
      readTokens .ready ((segments tokens).foldl declare style) rest := by
  induction tokens using segment_induction generalizing style with
  | last segment hlacks =>
      rw [Accepted, segments_of_lacks hlacks, List.forall_mem_singleton] at haccepted
      rw [segments_of_lacks hlacks, haccepted.read_semicolon hlacks hsemicolon]
      rfl
  | semicolon segment token tokens hlacks hend ih =>
      rw [Accepted, segments_append_cons hlacks hend, List.forall_mem_cons] at haccepted
      obtain ⟨hsegment, htokens⟩ := haccepted
      rw [List.append_assoc, List.cons_append, hsegment.read_semicolon hlacks hend,
        segments_append_cons hlacks hend, List.foldl_cons]
      exact ih htokens _

/-- What has been accepted is read alike whatever has been declared before. -/
theorem accepted_of_readTokens (h : readTokens .ready style tokens = .ok result) :
    Accepted tokens ∧
      ∀ style, readTokens .ready style tokens = .ok ((segments tokens).foldl declare style) := by
  have haccepted : Accepted tokens := by
    rcases readTokens_cases tokens style with ⟨haccepted, -⟩ |
      ⟨before, earlier, bad, following, fault, -, hread⟩
    · exact haccepted
    · rw [hread] at h
      cases h
  refine ⟨haccepted, fun style => ?_⟩
  rcases readTokens_cases tokens style with ⟨-, hread⟩ |
    ⟨before, earlier, bad, following, fault, hbad, -⟩
  · exact hread
  · exact absurd haccepted hbad.not_accepted

/-! ## Lists one after the other -/

/-- A list that is read has tokens, and its text is cut into their lexemes. -/
theorem exists_cuts_of_parse {input : String} (h : parse input = .ok style) :
    ∃ tokens lexemes, Cuts input.toList lexemes ∧ List.Forall₂ Token.Is tokens lexemes ∧
      readTokens .ready empty tokens = .ok style := by
  rw [parse] at h
  cases htokens : tokenize input with
  | error fault =>
      rw [htokens] at h
      cases h
  | ok tokens =>
      rw [htokens] at h
      obtain ⟨lexemes, hcuts, hall⟩ := cuts_of_tokensFrom htokens
      exact ⟨tokens, lexemes, hcuts, hall, h⟩

/-- Two declaration lists with a semicolon between them are one, in which the second overrides the
first. -/
theorem parse_join {first second : String} {base layer : Style} (hfirst : parse first = .ok base)
    (hsecond : parse second = .ok layer) :
    ∃ style, parse (first ++ ";" ++ second) = .ok style ∧
      ∀ property, style.get? property = (layer.get? property).or (base.get? property) := by
  obtain ⟨tokens, lexemes, hcuts, htokens, hread⟩ := exists_cuts_of_parse hfirst
  obtain ⟨others, more, hmore, hothers, hreadOthers⟩ := exists_cuts_of_parse hsecond
  -- the text is cut into the lexemes of the first list, the semicolon and those of the second
  have hbehind : Cuts (semicolon.text ++ second.toList) (semicolon :: more) :=
    hmore.append (Lexeme.apart_of_mark (c := ';') rfl (by decide))
  have hjoined : Cuts (first ++ ";" ++ second).toList (lexemes ++ semicolon :: more) := by
    have hjoin := hcuts.join (by decide) hbehind
    simpa using hjoin
  obtain ⟨all, hall, hlexemes⟩ := hjoined.tokensFrom 0
  have hfront := List.forall₂_take_append _ _ _ hlexemes
  have hback := List.forall₂_drop_append _ _ _ hlexemes
  rw [← List.take_append_drop lexemes.length all] at hall
  generalize all.take lexemes.length = front at hall hfront
  generalize all.drop lexemes.length = back at hall hback
  cases hback with
  | @cons middle _ back _ hmiddle hback =>
      have hreadFront := readTokens_congr hread htokens hfront
      have hreadBack := readTokens_congr hreadOthers hothers hback
      obtain ⟨hacceptedFront, hdeclareFront⟩ := accepted_of_readTokens hreadFront
      obtain ⟨-, hdeclareBack⟩ := accepted_of_readTokens hreadBack
      have hbase : base = (segments front).foldl declare empty := by
        simpa [hreadFront] using hdeclareFront empty
      have hlayer : layer = (segments back).foldl declare empty := by
        simpa [hreadBack] using hdeclareBack empty
      refine ⟨(segments back).foldl declare base, ?_, fun property => ?_⟩
      · rw [parse, tokenize, hall]
        dsimp only
        rw [readTokens_join hacceptedFront hmiddle.kind_eq, ← hbase]
        exact hdeclareBack base
      · have hempty : empty.get? property = none := rfl
        rw [hlayer, get?_foldl_declare, get?_foldl_declare empty, hempty, Option.or_none]

/-- A style whose text ends within a list of values. -/
def borderedStyle : Style :=
  (empty.set "color" "red").set "border" "solid 1px,"

/-- A style in which a semicolon stands within quotes. -/
def quotedStyle : Style :=
  (empty.set "border" "'a;b' 2px").set "width" "1"

theorem parse_join_bordered :
    parse "color: red; border: solid 1px , " = .ok borderedStyle ∧
      parse "border: 'a;b' 2px;; width:1" = .ok quotedStyle ∧
      ∃ style, parse ("color: red; border: solid 1px , " ++ ";" ++ "border: 'a;b' 2px;; width:1") =
          .ok style ∧
        ∀ property, style.get? property =
          (quotedStyle.get? property).or (borderedStyle.get? property) := by
  have hfirst : parse "color: red; border: solid 1px , " = .ok borderedStyle := by decide +kernel
  have hsecond : parse "border: 'a;b' 2px;; width:1" = .ok quotedStyle := by decide +kernel
  exact ⟨hfirst, hsecond, parse_join hfirst hsecond⟩

end Storyboard.Style
