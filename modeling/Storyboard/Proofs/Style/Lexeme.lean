import Storyboard.Proofs.Text.Pattern
import Storyboard.Style.Token

/-!
# Tokens read again

The longest token at the beginning of a text is a `Lexeme`: a text whose longest token is the whole
of it.  This file says which texts may follow a lexeme without changing what is read.

Every text that fits a kind has one of three forms (`Form`): a mark, a text between two quotes, or a
text without any separator.  No mark and no quoted text is the beginning of a longer text of such a
form, whatever follows; and a plain one is none of a longer text in which a separator follows.
Hence a lexeme is read again (`Lexeme.firstToken?_append`) before a separator, and before everything
if it is not plain itself.
-/

namespace Storyboard.Style

open Storyboard.Text

/-! ## The three forms of a token -/

/-- The characters that are tokens of their own. -/
def marks : List Char := ['(', ')', ':', ';', ',']

def quotes : List Char := ['"', '\'']

def blanks : List Char := [' ', '\t', '\n', '\r', '\x0c']

/-- The characters at which a token without quotes ends. -/
def separators : List Char := marks ++ quotes ++ blanks

/-- The text has no separator. -/
def Plain (text : List Char) : Prop := ∀ c ∈ text, c ∉ separators

/-- The forms of the texts that fit a kind of token. -/
inductive Form : List Char → Prop
  | mark {c : Char} (hmark : c ∈ marks) : Form [c]
  | quoted {quote : Char} {body : List Char} (hquote : quote ∈ quotes) (hbody : quote ∉ body) :
      Form (quote :: (body ++ [quote]))
  | plain {text : List Char} (hplain : Plain text) : Form text

theorem mem_separators_of_mem_marks {c : Char} (h : c ∈ marks) : c ∈ separators :=
  List.mem_append_left blanks (List.mem_append_left quotes h)

theorem mem_separators_of_mem_quotes {c : Char} (h : c ∈ quotes) : c ∈ separators :=
  List.mem_append_left blanks (List.mem_append_right marks h)

theorem form_of_matches_quotedPattern {quote : Char} {text : List Char} (hquote : quote ∈ quotes)
    (h : Pattern.Matches (quotedPattern quote) text) : Form text := by
  rw [quotedPattern, Pattern.matches_seq_iff] at h
  obtain ⟨opening, rest, rfl, hopening, hrest⟩ := h
  obtain ⟨body, closing, rfl, hbody, hclosing⟩ := Pattern.matches_seq_iff.mp hrest
  rw [Pattern.matches_char_iff] at hopening hclosing
  subst hopening hclosing
  refine .quoted hquote fun hmem => ?_
  have hoccurs := Pattern.occurs_of_mem hbody hmem
  simp [Pattern.occurs] at hoccurs

/-- A kind in whose texts no separator occurs fits plain texts only. -/
theorem form_of_matches_of_occurs {pattern : Pattern} {text : List Char}
    (hpattern : separators.any pattern.occurs = false) (h : pattern.Matches text) : Form text := by
  refine .plain fun c hc hseparator => ?_
  have hoccurs : pattern.occurs c = true := Pattern.occurs_of_mem h hc
  exact List.any_eq_false.mp hpattern c hseparator hoccurs

theorem form_of_matches {kind : TokenKind} {text : List Char} (h : kind.pattern.Matches text) :
    Form text := by
  cases kind with
  | text => exact form_of_matches_quotedPattern (by decide) h
  | singleQuotedText => exact form_of_matches_quotedPattern (by decide) h
  | important | hexColor | dimension | number | identifier =>
      exact form_of_matches_of_occurs (by decide) h
  | openingParenthesis | closingParenthesis | colon | semicolon | comma =>
      rw [Pattern.matches_char_iff.mp h]
      exact .mark (by decide)

/-! ## Longer texts -/

/-- A quote that is not inside a text ends it at the first place where it stands. -/
theorem eq_nil_of_append_eq_append_singleton {c : Char} {first body rest : List Char}
    (h : first ++ c :: rest = body ++ [c]) (hbody : c ∉ body) : rest = [] := by
  rcases List.eq_nil_or_concat' rest with hnil | ⟨init, last, rfl⟩
  · exact hnil
  · exfalso
    apply hbody
    have hcut : (first ++ c :: init) ++ [last] = body ++ [c] := by
      simpa using h
    have hsame : first ++ c :: init = body := (List.append_inj' hcut rfl).1
    rw [← hsame]
    exact List.mem_append_right first List.mem_cons_self

/-- What follows a text in a longer one of the three forms is read as a part of it only if both are
plain. -/
theorem not_form_append {text rest : List Char} {c : Char} (htext : Form text) (hnil : text ≠ [])
    (hseparate : ¬ Plain text ∨ c ∈ separators) : ¬ Form (text ++ c :: rest) := by
  intro hlong
  generalize heq : text ++ c :: rest = long at hlong
  -- the form of the longer text is taken apart, with its first character that of the shorter
  cases hlong with
  | mark hmark =>
      -- the text and what follows are two characters at least
      have hlength := congrArg List.length heq
      have hpos := List.length_pos_iff.mpr hnil
      simp only [List.length_append, List.length_cons, List.length_nil] at hlength
      omega
  | plain hplain =>
      subst heq
      rcases hseparate with hnot | hseparator
      · exact hnot fun d hd => hplain d (List.mem_append_left _ hd)
      · exact hplain c (List.mem_append_right _ List.mem_cons_self) hseparator
  | @quoted quote body hquote hbody =>
      cases htext with
      | @mark d hmark =>
          have hdisjoint : ∀ c ∈ marks, c ∉ quotes := by simp [marks, quotes]
          obtain ⟨rfl, -⟩ := List.cons.inj heq
          exact hdisjoint d hmark hquote
      | @quoted other inner hother hinner =>
          obtain ⟨rfl, htail⟩ := List.cons.inj heq
          have hlater : inner ++ other :: (c :: rest) = body ++ [other] := by
            simpa using htail
          have hempty := eq_nil_of_append_eq_append_singleton hlater hbody
          cases hempty
      | plain hplain =>
          cases text with
          | nil => exact hnil rfl
          | cons d text =>
              obtain ⟨rfl, -⟩ := List.cons.inj heq
              exact hplain d List.mem_cons_self (mem_separators_of_mem_quotes hquote)

/-! ## The longest token -/

/-- The candidate is the longest among those of the kinds that have been tried. -/
def IsLongest (input : List Char) (tried : List TokenKind) : Option (TokenKind × Nat) → Prop
  | none => ∀ kind ∈ tried, kind.pattern.longest? input = none
  | some (kind, length) => kind.pattern.longest? input = some length ∧
      ∀ other ∈ tried, ∀ found, other.pattern.longest? input = some found → found ≤ length

theorem isLongest_betterCandidate {input : List Char} {tried : List TokenKind}
    {best : Option (TokenKind × Nat)} (h : IsLongest input tried best) (kind : TokenKind) :
    IsLongest input (tried ++ [kind]) (betterCandidate input best kind) := by
  cases best with
  | none =>
      cases hkind : kind.pattern.longest? input with
      | none =>
          simp only [betterCandidate, hkind]
          intro other hother
          rcases List.mem_append.mp hother with hother | hother
          · exact h other hother
          · rw [List.mem_singleton.mp hother, hkind]
      | some length =>
          simp only [betterCandidate, hkind]
          refine ⟨hkind, fun other hother found hfound => ?_⟩
          rcases List.mem_append.mp hother with hother | hother
          · rw [h other hother] at hfound
            cases hfound
          · rw [List.mem_singleton.mp hother, hkind] at hfound
            cases hfound
            exact Nat.le_refl _
  | some candidate =>
      obtain ⟨earlier, most⟩ := candidate
      obtain ⟨hearlier, hmost⟩ := h
      -- a bound on the earlier kinds and on the new one is a bound on them all
      have hall {longer : Nat} (hle : most ≤ longer)
          (hlonger : ∀ found, kind.pattern.longest? input = some found → found ≤ longer) :
          ∀ other ∈ tried ++ [kind], ∀ found, other.pattern.longest? input = some found →
            found ≤ longer := by
        intro other hother found hfound
        rcases List.mem_append.mp hother with hother | hother
        · exact Nat.le_trans (hmost other hother found hfound) hle
        · rw [List.mem_singleton.mp hother] at hfound
          exact hlonger found hfound
      cases hkind : kind.pattern.longest? input with
      | none =>
          simp only [betterCandidate, hkind]
          refine ⟨hearlier, hall (Nat.le_refl most) fun found hfound => ?_⟩
          rw [hkind] at hfound
          cases hfound
      | some length =>
          simp only [betterCandidate, hkind]
          split
          case isTrue hlt =>
            refine ⟨hkind, hall (Nat.le_of_lt hlt) fun found hfound => ?_⟩
            rw [hkind] at hfound
            cases hfound
            exact Nat.le_refl _
          case isFalse hge =>
            refine ⟨hearlier, hall (Nat.le_refl most) fun found hfound => ?_⟩
            rw [hkind] at hfound
            cases hfound
            exact Nat.le_of_not_lt hge

theorem isLongest_foldl {input : List Char} {tried : List TokenKind}
    {best : Option (TokenKind × Nat)} (h : IsLongest input tried best) (kinds : List TokenKind) :
    IsLongest input (tried ++ kinds) (kinds.foldl (betterCandidate input) best) := by
  induction kinds generalizing tried best with
  | nil => simpa using h
  | cons kind kinds ih =>
      have hrest := ih (isLongest_betterCandidate h kind)
      rwa [List.append_assoc] at hrest

theorem TokenKind.mem_all (kind : TokenKind) : kind ∈ TokenKind.all := by
  cases kind <;> decide

theorem isLongest_firstToken? (input : List Char) :
    IsLongest input TokenKind.all (firstToken? input) := by
  have hstart : IsLongest input [] none := fun _ hkind => absurd hkind List.not_mem_nil
  exact isLongest_foldl hstart TokenKind.all

theorem firstToken?_congr {input other : List Char}
    (h : ∀ kind : TokenKind, kind.pattern.longest? input = kind.pattern.longest? other) :
    firstToken? input = firstToken? other := by
  have hbetter : betterCandidate input = betterCandidate other := by
    funext best kind
    simp only [betterCandidate, h kind]
  rw [firstToken?, firstToken?, hbetter]

theorem fitsUpTo_of_firstToken? {input : List Char} {kind : TokenKind} {length : Nat}
    (h : firstToken? input = some (kind, length)) : kind.pattern.FitsUpTo input length := by
  have hlongest := isLongest_firstToken? input
  rw [h] at hlongest
  exact (Pattern.longest?_eq_some_iff.mp hlongest.1).1

theorem le_of_fitsUpTo {input : List Char} {kind other : TokenKind} {length shorter : Nat}
    (h : firstToken? input = some (kind, length)) (hother : other.pattern.FitsUpTo input shorter) :
    shorter ≤ length := by
  have hlongest := isLongest_firstToken? input
  rw [h] at hlongest
  obtain ⟨found, hfound, hle⟩ := hother.le_longest?
  exact Nat.le_trans hle (hlongest.2 other other.mem_all found hfound)

theorem fitsUpTo_length_of_begins {pattern : Pattern} {input beginning : List Char}
    (hbegins : beginning <+: input) (h : pattern.Matches beginning) :
    pattern.FitsUpTo input beginning.length := by
  refine ⟨hbegins.length_le, ?_⟩
  rwa [← List.prefix_iff_eq_take.mp hbegins]

/-- What follows a text does not matter if no token goes on beyond the text. -/
theorem firstToken?_append_eq {input rest : List Char}
    (h : ∀ (kind : TokenKind) (c : Char) (more : List Char), c :: more <+: rest →
      ¬ kind.pattern.Matches (input ++ c :: more)) :
    firstToken? (input ++ rest) = firstToken? input := by
  -- each kind fits the same prefixes of the text with what follows and of the text alone
  refine firstToken?_congr fun kind => Pattern.longest?_congr fun length => ?_
  constructor
  · rintro ⟨hlength, hmatches⟩
    by_cases hle : length ≤ input.length
    · rw [List.take_append_of_le_length hle] at hmatches
      exact ⟨hle, hmatches⟩
    · exfalso
      cases rest with
      | nil =>
          rw [List.append_nil] at hlength
          exact hle hlength
      | cons c rest =>
          obtain ⟨more, hmore⟩ : ∃ more, length = input.length + (more + 1) :=
            ⟨length - input.length - 1, by omega⟩
          rw [hmore, List.take_length_add_append, List.take_succ_cons] at hmatches
          exact h kind c _ (List.take_prefix (more + 1) (c :: rest)) hmatches
  · rintro ⟨hlength, hmatches⟩
    have htake : (input ++ rest).take length = input.take length :=
      List.take_append_of_le_length hlength
    refine ⟨by rw [List.length_append]; omega, ?_⟩
    rw [htake]
    exact hmatches

/-! ## Lexemes -/

/-- A text whose longest token is the whole of it. -/
structure Lexeme where
  kind : TokenKind
  text : List Char
  nonempty : text ≠ []
  whole : firstToken? text = some (kind, text.length)

/-- The longest token of an input is also the longest one of a beginning of it that has the whole
token. -/
theorem firstToken?_of_append {input rest : List Char} {kind : TokenKind} {length : Nat}
    (h : firstToken? (input ++ rest) = some (kind, length)) (hwhole : length ≤ input.length) :
    firstToken? input = some (kind, length) := by
  rw [← h]
  refine firstToken?_congr fun other => Pattern.longest?_congr fun shorter => ?_
  constructor
  · rintro ⟨hlength, hmatches⟩
    refine ⟨by rw [List.length_append]; omega, ?_⟩
    rwa [List.take_append_of_le_length hlength]
  · intro hfits
    have hle := Nat.le_trans (le_of_fitsUpTo h hfits) hwhole
    refine ⟨hle, ?_⟩
    rw [← List.take_append_of_le_length hle]
    exact hfits.2

/-- The longest token of an input is a lexeme, and it is read before what follows it there. -/
theorem exists_lexeme {input : List Char} {kind : TokenKind} {length : Nat}
    (h : firstToken? input = some (kind, length + 1)) :
    ∃ lexeme : Lexeme, lexeme.kind = kind ∧ lexeme.text = input.take (length + 1) ∧
      lexeme.text ++ input.drop (length + 1) = input ∧
      firstToken? (lexeme.text ++ input.drop (length + 1))
        = some (lexeme.kind, lexeme.text.length) := by
  have hsplit := List.take_append_drop (length + 1) input
  have hlength : (input.take (length + 1)).length = length + 1 := by
    rw [List.length_take]
    exact Nat.min_eq_left (fitsUpTo_of_firstToken? h).1
  have hnonempty : input.take (length + 1) ≠ [] := by
    intro hnil
    rw [hnil] at hlength
    cases hlength
  have hfirst : firstToken? (input.take (length + 1) ++ input.drop (length + 1)) =
      some (kind, (input.take (length + 1)).length) := by
    rw [hsplit, hlength, h]
  have hwhole := firstToken?_of_append hfirst (Nat.le_refl _)
  exact ⟨⟨kind, input.take (length + 1), hnonempty, hwhole⟩, rfl, rfl, hsplit, hfirst⟩

namespace Lexeme

variable (lexeme : Lexeme)

theorem matches_text : lexeme.kind.pattern.Matches lexeme.text := by
  have hfits := (fitsUpTo_of_firstToken? lexeme.whole).2
  rwa [List.take_length] at hfits

theorem form : Form lexeme.text :=
  form_of_matches lexeme.matches_text

/-- What follows does not change how the lexeme is read. -/
def Apart (rest : List Char) : Prop :=
  ¬ Plain lexeme.text ∨ ∀ c ∈ rest.head?, c ∈ separators

theorem firstToken?_append {rest : List Char} (h : lexeme.Apart rest) :
    firstToken? (lexeme.text ++ rest) = some (lexeme.kind, lexeme.text.length) := by
  rw [← lexeme.whole]
  apply firstToken?_append_eq
  intro kind c more hmore hmatches
  -- a longer token would have the lexeme and what follows it as a beginning
  have hseparate : ¬ Plain lexeme.text ∨ c ∈ separators := by
    refine h.imp_right fun hhead => hhead c ?_
    obtain ⟨rest, rfl⟩ := hmore
    rfl
  exact not_form_append lexeme.form lexeme.nonempty hseparate (form_of_matches hmatches)

end Lexeme

/-- A name has no separator in it. -/
theorem plain_of_identifier {lexeme : Lexeme} (h : lexeme.kind = .identifier) :
    Plain lexeme.text := by
  intro c hc hseparator
  have hoccurs := Pattern.occurs_of_mem lexeme.matches_text hc
  rw [h] at hoccurs
  have hnone : separators.any TokenKind.identifier.pattern.occurs = false := by decide
  exact List.any_eq_false.mp hnone c hseparator hoccurs

end Storyboard.Style
