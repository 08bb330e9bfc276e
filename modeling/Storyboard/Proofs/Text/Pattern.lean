import Mathlib.Data.List.Basic
import Storyboard.Text.Pattern

/-!
# Stepping is matching

Patterns are matched by stepping them and thinning them out on the way.  `step_iff` says that this
loses no text and adds none, and `longest?_spec` that the number found in the end is the length of
the longest prefix that fits.  Since the latter is about prefixes alone, two texts with the same
fitting prefixes give the same number (`longest?_congr`).
-/

namespace Storyboard.Text.Pattern

variable {first second inner pattern : Pattern} {c : Char} {s t input : List Char}

/-! ## The constructors -/

theorem not_matches_nothing : ¬ Matches .nothing s := by
  intro h
  cases h

theorem matches_empty_iff : Matches .empty s ↔ s = [] := by
  constructor
  · intro h
    cases h
    rfl
  · rintro rfl
    exact .empty

theorem matches_one_iff {fits : Char → Bool} :
    Matches (.one fits) s ↔ ∃ c, fits c = true ∧ s = [c] := by
  constructor
  · intro h
    cases h with
    | one hfits => exact ⟨_, hfits, rfl⟩
  · rintro ⟨c, hfits, rfl⟩
    exact .one hfits

theorem matches_seq_iff :
    Matches (.seq first second) s ↔ ∃ u v, s = u ++ v ∧ Matches first u ∧ Matches second v := by
  constructor
  · intro h
    cases h with
    | seq hu hv => exact ⟨_, _, rfl, hu, hv⟩
  · rintro ⟨u, v, rfl, hu, hv⟩
    exact .seq hu hv

theorem matches_either_iff :
    Matches (.either first second) s ↔ Matches first s ∨ Matches second s := by
  constructor
  · intro h
    cases h with
    | left h => exact Or.inl h
    | right h => exact Or.inr h
  · rintro (h | h)
    · exact .left h
    · exact .right h

/-- A repetition that is not empty begins with a text of the pattern that is not empty. -/
theorem matches_many_cons_iff :
    Matches (.many inner) (c :: s) ↔
      ∃ u v, s = u ++ v ∧ Matches inner (c :: u) ∧ Matches (.many inner) v := by
  constructor
  · intro h
    generalize hpattern : Pattern.many inner = pattern at h
    generalize htext : c :: s = text at h
    induction h with
    | @more inner' u v hu hv _ ih =>
        cases hpattern
        -- an empty text in front is skipped
        cases u with
        | nil => exact ih rfl htext
        | cons d u =>
            obtain ⟨rfl, rfl⟩ := List.cons.inj htext
            exact ⟨u, v, rfl, hu, hv⟩
    | done => cases htext
    | empty | one | seq | left | right => cases hpattern
  · rintro ⟨u, v, rfl, hu, hv⟩
    exact .more hu hv

theorem matches_char_iff : Matches (char c) s ↔ s = [c] := by
  simp [char, matches_one_iff]

/-! ## Runs of characters -/

theorem matches_many_one {fits : Char → Bool} (h : ∀ c ∈ s, fits c = true) :
    Matches (.many (.one fits)) s := by
  induction s with
  | nil => exact .done
  | cons c s ih =>
      have hrest := ih fun d hd => h d (List.mem_cons_of_mem c hd)
      exact .more (.one (h c List.mem_cons_self)) hrest

theorem matches_some_one {fits : Char → Bool} (hnonempty : s ≠ []) (h : ∀ c ∈ s, fits c = true) :
    Matches (some (.one fits)) s := by
  cases s with
  | nil => exact absurd rfl hnonempty
  | cons c s =>
      have hrest := matches_many_one fun d hd => h d (List.mem_cons_of_mem c hd)
      exact .seq (.one (h c List.mem_cons_self)) hrest

theorem matches_many_append (h : Matches (.many inner) s) (ht : Matches (.many inner) t) :
    Matches (.many inner) (s ++ t) := by
  generalize hpattern : Pattern.many inner = pattern at h
  induction h with
  | done =>
      cases hpattern
      exact ht
  | more hs _ _ ih =>
      cases hpattern
      rw [List.append_assoc]
      exact .more hs (ih rfl)
  | empty | one | seq | left | right => cases hpattern

theorem matches_some_append (h : Matches (some inner) s) (ht : Matches (.many inner) t) :
    Matches (some inner) (s ++ t) := by
  obtain ⟨first, rest, rfl, hfirst, hrest⟩ := matches_seq_iff.mp h
  rw [List.append_assoc]
  exact .seq hfirst (matches_many_append hrest ht)

theorem matches_word_iff {word : List Char} : Matches (Pattern.word word) s ↔ s = word := by
  induction word generalizing s with
  | nil => exact matches_empty_iff
  | cons c word ih =>
      rw [Pattern.word, matches_seq_iff]
      constructor
      · rintro ⟨first, rest, rfl, hfirst, hrest⟩
        rw [matches_char_iff.mp hfirst, ih.mp hrest]
        rfl
      · rintro rfl
        exact ⟨[c], word, rfl, matches_char_iff.mpr rfl, ih.mpr rfl⟩

theorem matches_atMost_one_iff {fits : Char → Bool} {count : Nat} :
    Matches (atMost (.one fits) count) s ↔ (∀ c ∈ s, fits c = true) ∧ s.length ≤ count := by
  induction count generalizing s with
  | zero =>
      rw [atMost, matches_empty_iff]
      constructor
      · rintro rfl
        simp
      · exact fun h => List.eq_nil_of_length_eq_zero (Nat.le_zero.mp h.2)
  | succ count ih =>
      rw [atMost, optional, matches_either_iff, matches_empty_iff, matches_seq_iff]
      constructor
      · rintro (⟨first, rest, rfl, hfirst, hrest⟩ | rfl)
        · obtain ⟨c, hc, rfl⟩ := matches_one_iff.mp hfirst
          obtain ⟨hall, hlength⟩ := ih.mp hrest
          exact ⟨List.forall_mem_cons.mpr ⟨hc, hall⟩, Nat.succ_le_succ hlength⟩
        · simp
      · rintro ⟨hall, hlength⟩
        cases s with
        | nil => exact Or.inr rfl
        | cons c s =>
            obtain ⟨hc, hrest⟩ := List.forall_mem_cons.mp hall
            exact Or.inl ⟨[c], s, rfl, .one hc, ih.mpr ⟨hrest, Nat.le_of_succ_le_succ hlength⟩⟩

theorem matches_between_one_iff {fits : Char → Bool} {extra least : Nat} :
    Matches (between (.one fits) extra least) s ↔
      (∀ c ∈ s, fits c = true) ∧ least ≤ s.length ∧ s.length ≤ least + extra := by
  induction least generalizing s with
  | zero => simp [between, matches_atMost_one_iff]
  | succ least ih =>
      rw [between, matches_seq_iff]
      constructor
      · rintro ⟨first, rest, rfl, hfirst, hrest⟩
        obtain ⟨c, hc, rfl⟩ := matches_one_iff.mp hfirst
        obtain ⟨hall, hleast, hmost⟩ := ih.mp hrest
        refine ⟨List.forall_mem_cons.mpr ⟨hc, hall⟩, ?_, ?_⟩ <;> simp <;> omega
      · rintro ⟨hall, hleast, hmost⟩
        cases s with
        | nil => cases hleast
        | cons c s =>
            obtain ⟨hc, hrest⟩ := List.forall_mem_cons.mp hall
            simp only [List.length_cons] at hleast hmost
            exact ⟨[c], s, rfl, .one hc, ih.mpr ⟨hrest, by omega, by omega⟩⟩

/-! ## Stepping -/

theorem nullable_iff : pattern.nullable = true ↔ Matches pattern [] := by
  induction pattern with
  | nothing => simp [nullable, not_matches_nothing]
  | empty => simp [nullable, matches_empty_iff]
  | one fits => simp [nullable, matches_one_iff]
  | seq first second ihfirst ihsecond =>
      rw [nullable, Bool.and_eq_true, ihfirst, ihsecond, matches_seq_iff]
      -- the empty text is put together of empty texts only
      constructor
      · rintro ⟨hfirst, hsecond⟩
        exact ⟨[], [], rfl, hfirst, hsecond⟩
      · rintro ⟨u, v, hnil, hfirst, hsecond⟩
        obtain ⟨rfl, rfl⟩ := List.append_eq_nil_iff.mp hnil.symm
        exact ⟨hfirst, hsecond⟩
  | either first second ihfirst ihsecond =>
      rw [nullable, Bool.or_eq_true, ihfirst, ihsecond, matches_either_iff]
  | many inner => simp [nullable, Matches.done]

theorem matches_andThen_iff : Matches (andThen first second) s ↔ Matches (.seq first second) s := by
  unfold andThen
  split
  · simp [matches_seq_iff, not_matches_nothing]
  · simp [matches_seq_iff, matches_empty_iff]
  · rfl

theorem matches_orElse_iff :
    Matches (orElse first second) s ↔ Matches (.either first second) s := by
  unfold orElse
  split
  · simp [matches_either_iff, not_matches_nothing]
  · simp [matches_either_iff, not_matches_nothing]
  · rfl

/-- After a character has been read, the stepped pattern fits what may follow. -/
theorem step_iff : Matches (pattern.step c) s ↔ Matches pattern (c :: s) := by
  -- a sequence whose first part takes the character
  have hseq {first : Pattern} (second : Pattern)
      (hfirst : ∀ s, Matches (first.step c) s ↔ Matches first (c :: s)) (s : List Char) :
      Matches (andThen (first.step c) second) s ↔
        ∃ u v, s = u ++ v ∧ Matches first (c :: u) ∧ Matches second v := by
    rw [matches_andThen_iff, matches_seq_iff]
    simp only [hfirst]
  induction pattern generalizing s with
  | nothing => simp [step, not_matches_nothing]
  | empty => simp [step, not_matches_nothing, matches_empty_iff]
  | one fits =>
      rw [step, matches_one_iff]
      split
      case isTrue hfits => simp [matches_empty_iff, hfits]
      case isFalse hfits => simp [not_matches_nothing, hfits]
  | seq first second ihfirst ihsecond =>
      -- the first part takes the character, unless it is empty
      have hsplit : Matches (.seq first second) (c :: s) ↔
          (∃ u v, s = u ++ v ∧ Matches first (c :: u) ∧ Matches second v) ∨
            (Matches first [] ∧ Matches second (c :: s)) := by
        rw [matches_seq_iff]
        constructor
        · rintro ⟨u, v, hs, hu, hv⟩
          cases u with
          | nil => exact Or.inr ⟨hu, hs ▸ hv⟩
          | cons d u =>
              obtain ⟨rfl, rfl⟩ := List.cons.inj hs
              exact Or.inl ⟨u, v, rfl, hu, hv⟩
        · rintro (⟨u, v, rfl, hu, hv⟩ | ⟨hnil, hs⟩)
          · exact ⟨c :: u, v, rfl, hu, hv⟩
          · exact ⟨[], c :: s, rfl, hnil, hs⟩
      rw [step, hsplit, ← nullable_iff]
      split
      case isTrue hnullable =>
        have htake := hseq second (fun _ => ihfirst) s
        have hpass : Matches (second.step c) s ↔ Matches second (c :: s) := ihsecond
        rw [matches_orElse_iff, matches_either_iff, htake, hpass]
        simp [hnullable]
      case isFalse hnullable =>
        have htake := hseq second (fun _ => ihfirst) s
        rw [htake]
        simp [hnullable]
  | either first second ihfirst ihsecond =>
      have hfirst : Matches (first.step c) s ↔ Matches first (c :: s) := ihfirst
      have hsecond : Matches (second.step c) s ↔ Matches second (c :: s) := ihsecond
      rw [step, matches_orElse_iff, matches_either_iff, matches_either_iff, hfirst, hsecond]
  | many inner ih =>
      have htake := hseq (.many inner) (fun _ => ih) s
      rw [step, htake, matches_many_cons_iff]

/-! ## The longest prefix -/

/-- The prefix of the given length fits. -/
def FitsUpTo (pattern : Pattern) (input : List Char) (length : Nat) : Prop :=
  length ≤ input.length ∧ Matches pattern (input.take length)

theorem fitsUpTo_cons_succ {length : Nat} :
    FitsUpTo pattern (c :: input) (length + 1) ↔ FitsUpTo (pattern.step c) input length := by
  simp [FitsUpTo, step_iff]

theorem fitsUpTo_zero : FitsUpTo pattern input 0 ↔ pattern.nullable = true := by
  simp [FitsUpTo, nullable_iff]

/-- What is found is the length of the longest prefix that fits, or that none does. -/
theorem longest?_spec (pattern : Pattern) (input : List Char) :
    match pattern.longest? input with
    | .some length => FitsUpTo pattern input length ∧
        ∀ other, FitsUpTo pattern input other → other ≤ length
    | none => ∀ other, ¬ FitsUpTo pattern input other := by
  induction input generalizing pattern with
  | nil =>
      have hzero {other : Nat} (hother : FitsUpTo pattern [] other) : other = 0 := by
        simpa using hother.1
      rw [longest?]
      by_cases hnullable : pattern.nullable = true
      · rw [if_pos hnullable]
        exact ⟨fitsUpTo_zero.mpr hnullable, fun other hother => Nat.le_of_eq (hzero hother)⟩
      · rw [if_neg hnullable]
        intro other hother
        obtain rfl := hzero hother
        exact hnullable (fitsUpTo_zero.mp hother)
  | cons c rest ih =>
      rw [longest?]
      by_cases hnothing : pattern.isNothing = true
      · rw [if_pos hnothing]
        intro other hother
        cases pattern with
        | nothing => exact not_matches_nothing hother.2
        | empty | one | seq | either | many => cases hnothing
      · rw [if_neg hnothing]
        have hrest := ih (pattern.step c)
        cases hlongest : (pattern.step c).longest? rest with
        | some length =>
            rw [hlongest] at hrest
            refine ⟨fitsUpTo_cons_succ.mpr hrest.1, fun other hother => ?_⟩
            cases other with
            | zero => exact Nat.zero_le _
            | succ other => exact Nat.succ_le_succ (hrest.2 other (fitsUpTo_cons_succ.mp hother))
        | none =>
            rw [hlongest] at hrest
            -- no prefix of the rest fits the stepped pattern, so only the empty one is left
            have hlong (other : Nat) : ¬ FitsUpTo pattern (c :: rest) (other + 1) :=
              fun hother => hrest other (fitsUpTo_cons_succ.mp hother)
            by_cases hnullable : pattern.nullable = true
            · rw [if_pos hnullable]
              refine ⟨fitsUpTo_zero.mpr hnullable, fun other hother => ?_⟩
              cases other with
              | zero => exact Nat.le_refl _
              | succ other => exact absurd hother (hlong other)
            · rw [if_neg hnullable]
              intro other hother
              cases other with
              | zero => exact hnullable (fitsUpTo_zero.mp hother)
              | succ other => exact hlong other hother

theorem longest?_eq_some_iff {length : Nat} :
    pattern.longest? input = .some length ↔ FitsUpTo pattern input length ∧
      ∀ other, FitsUpTo pattern input other → other ≤ length := by
  have hspec := longest?_spec pattern input
  cases hlongest : pattern.longest? input with
  | none =>
      rw [hlongest] at hspec
      exact ⟨fun h => (by cases h), fun h => absurd h.1 (hspec length)⟩
  | some found =>
      rw [hlongest] at hspec
      constructor
      · intro h
        exact Option.some.inj h ▸ hspec
      · rintro ⟨hfits, hmost⟩
        exact congrArg Option.some (Nat.le_antisymm (hmost found hspec.1) (hspec.2 length hfits))

theorem longest?_eq_none_iff :
    pattern.longest? input = none ↔ ∀ other, ¬ FitsUpTo pattern input other := by
  have hspec := longest?_spec pattern input
  cases hlongest : pattern.longest? input with
  | none =>
      rw [hlongest] at hspec
      exact ⟨fun _ => hspec, fun _ => rfl⟩
  | some found =>
      rw [hlongest] at hspec
      exact ⟨fun h => (by cases h), fun h => absurd hspec.1 (h found)⟩

theorem FitsUpTo.le_longest? {length : Nat} (h : FitsUpTo pattern input length) :
    ∃ found, pattern.longest? input = .some found ∧ length ≤ found := by
  have hspec := longest?_spec pattern input
  cases hlongest : pattern.longest? input with
  | none =>
      rw [hlongest] at hspec
      exact absurd h (hspec length)
  | some found =>
      rw [hlongest] at hspec
      exact ⟨found, rfl, hspec.2 length h⟩

/-- The prefixes that fit decide. -/
theorem longest?_congr {other : List Char}
    (h : ∀ length, FitsUpTo pattern input length ↔ FitsUpTo pattern other length) :
    pattern.longest? input = pattern.longest? other := by
  cases hlongest : pattern.longest? other with
  | none =>
      rw [longest?_eq_none_iff] at hlongest ⊢
      exact fun length hfits => hlongest length ((h length).mp hfits)
  | some found =>
      rw [longest?_eq_some_iff] at hlongest ⊢
      exact ⟨(h found).mpr hlongest.1, fun length hfits => hlongest.2 length ((h length).mp hfits)⟩

/-! ## Characters that occur and that begin a text -/

/-- Whether the character occurs in some text that the pattern may fit. -/
def occurs : Pattern → Char → Bool
  | .nothing, _ => false
  | .empty, _ => false
  | .one fits, c => fits c
  | .seq first second, c => first.occurs c || second.occurs c
  | .either first second, c => first.occurs c || second.occurs c
  | .many inner, c => inner.occurs c

theorem occurs_of_mem (h : Matches pattern s) (hc : c ∈ s) : pattern.occurs c = true := by
  induction h with
  | empty => simp at hc
  | one hfits =>
      rw [List.mem_singleton.mp hc]
      exact hfits
  | seq _ _ ihs iht =>
      rw [occurs, Bool.or_eq_true]
      exact (List.mem_append.mp hc).imp ihs iht
  | left _ ih =>
      rw [occurs, ih hc]
      rfl
  | right _ ih =>
      rw [occurs, ih hc, Bool.or_true]
  | done => simp at hc
  | more _ _ ihs iht =>
      rcases List.mem_append.mp hc with hs | ht
      · exact ihs hs
      · exact iht ht

/-- Whether a text that the pattern fits may begin with the character. -/
def starts : Pattern → Char → Bool
  | .nothing, _ => false
  | .empty, _ => false
  | .one fits, c => fits c
  | .seq first second, c => first.starts c || (first.nullable && second.starts c)
  | .either first second, c => first.starts c || second.starts c
  | .many inner, c => inner.starts c

theorem starts_of_matches (h : Matches pattern (c :: s)) : pattern.starts c = true := by
  -- the induction is on the pattern, since a part of it may fit the empty text and pass on
  induction pattern generalizing s with
  | nothing => exact absurd h not_matches_nothing
  | empty => cases matches_empty_iff.mp h
  | one fits =>
      obtain ⟨d, hfits, htext⟩ := matches_one_iff.mp h
      obtain ⟨rfl, -⟩ := List.cons.inj htext
      exact hfits
  | seq first second ihfirst ihsecond =>
      obtain ⟨u, v, htext, hu, hv⟩ := matches_seq_iff.mp h
      rw [starts, Bool.or_eq_true]
      cases u with
      | nil =>
          obtain rfl : c :: s = v := htext
          have hsecond : second.starts c = true := ihsecond hv
          exact Or.inr (by rw [nullable_iff.mpr hu, hsecond, Bool.and_self])
      | cons d u =>
          obtain ⟨rfl, -⟩ := List.cons.inj htext
          exact Or.inl (ihfirst hu)
  | either first second ihfirst ihsecond =>
      rw [starts, Bool.or_eq_true]
      exact (matches_either_iff.mp h).imp ihfirst ihsecond
  | many inner ih =>
      obtain ⟨u, v, -, hu, -⟩ := matches_many_cons_iff.mp h
      exact ih hu

end Storyboard.Text.Pattern
