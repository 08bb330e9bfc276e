import Storyboard.Proofs.Style.Declaration

/-!
# The grammar of declaration lists

A token list is accepted when every segment between its semicolons is empty or a declaration.  The
reader makes the declarations of an accepted list, and it refuses every other list with a fault of
the first bad segment (`parse_grammar`).

A fault that names a token names the first impossible one: what stands before it can be completed to
an accepted list (`Viable`), and with it no longer.  This is a matter of the bad segment alone: the
tokens before it end at a semicolon, and whatever stands after such a place is cut into segments of
its own (`SplitsAt`).
-/

namespace Storyboard.Style

variable {kind : TokenKind} {token : Token} {fault : StyleError}
  {tokens segment value before front bad following : List Token} {earlier : List (List Token)}

/-! ## Accepted lists -/

/-- The parts of a token list before, between and after its semicolons. -/
def segments (tokens : List Token) : List (List Token) :=
  tokens.splitOnP fun token => token.kind == .semicolon

/-- No token of the kind stands in the list. -/
def Lacks (tokens : List Token) (kind : TokenKind) : Prop :=
  ∀ token ∈ tokens, token.kind ≠ kind

/-- A name, a colon, and a value in which no further colon stands. -/
structure Declares (name colon : Token) (value : List Token) : Prop where
  name_kind : name.kind = .identifier
  colon_kind : colon.kind = .colon
  nonempty : value ≠ []
  lacks_colon : Lacks value .colon

/-- The segment is empty or a declaration. -/
inductive Admissible : List Token → Prop
  | empty : Admissible []
  | declaration {name colon : Token} {value : List Token} (h : Declares name colon value) :
      Admissible (name :: colon :: value)

/-- Every segment is admissible. -/
def Accepted (tokens : List Token) : Prop :=
  ∀ segment ∈ segments tokens, Admissible segment

/-- The tokens begin some accepted list. -/
def Viable (tokens : List Token) : Prop :=
  ∃ rest, Accepted (tokens ++ rest)

/-- The text of the tokens of a value when one of the kind `last` stands before them. -/
def valueText (last : Option TokenKind) : List Token → String
  | [] => ""
  | token :: rest =>
      (if needsSpace last token.kind then " " else "") ++ token.text
        ++ valueText (some token.kind) rest

/-- The property that a segment declares, with its value. -/
def entry? : List Token → Option (String × String)
  | name :: _ :: value => some (name.text, valueText none value)
  | _ => none

/-- The properties that are declared, with their values, in the order of the segments. -/
def declaredEntries (tokens : List Token) : List (String × String) :=
  (segments tokens).filterMap entry?

/-! ## Segments -/

@[simp]
theorem lacks_nil (kind : TokenKind) : Lacks [] kind :=
  fun _ hmem => absurd hmem List.not_mem_nil

@[simp]
theorem lacks_cons_iff : Lacks (token :: tokens) kind ↔ token.kind ≠ kind ∧ Lacks tokens kind :=
  List.forall_mem_cons

@[simp]
theorem lacks_append_iff : Lacks (front ++ tokens) kind ↔ Lacks front kind ∧ Lacks tokens kind :=
  List.forall_mem_append

theorem segments_of_lacks (h : Lacks segment .semicolon) : segments segment = [segment] := by
  apply List.splitOnP_eq_singleton
  intro token htoken
  simpa using h token htoken

theorem segments_append_cons (h : Lacks segment .semicolon) (hend : token.kind = .semicolon) :
    segments (segment ++ token :: tokens) = segment :: segments tokens := by
  apply List.splitOnP_append_cons_of_forall_mem
  · intro other hother
    simpa using h other hother
  · simpa using hend

/-- Tokens without a semicolon begin the first segment. -/
theorem exists_segments_append (h : Lacks front .semicolon) (rest : List Token) :
    ∃ more others, segments (front ++ rest) = (front ++ more) :: others := by
  induction front with
  | nil => exact List.exists_cons_of_ne_nil (List.splitOnP_ne_nil _ rest)
  | cons token front ih =>
      obtain ⟨hkind, hfront⟩ := lacks_cons_iff.mp h
      obtain ⟨more, others, hsegments⟩ := ih hfront
      refine ⟨more, others, ?_⟩
      rw [segments] at hsegments
      rw [segments, List.cons_append, List.splitOnP_cons_eq_if_modifyHead, hsegments]
      simp [hkind]

/-- What follows a segment: nothing, or a semicolon and more. -/
inductive Ending : List Token → Prop
  | nothing : Ending []
  | semicolon {token : Token} {tokens : List Token} (hend : token.kind = .semicolon) :
      Ending (token :: tokens)

/-- No segment comes after one that ends with the text. -/
theorem exists_segments_of_ending (h : Lacks segment .semicolon) (hending : Ending following) :
    ∃ later, segments (segment ++ following) = segment :: later ∧
      (later = [] ↔ following = []) := by
  cases hending with
  | nothing => exact ⟨[], by rw [List.append_nil, segments_of_lacks h], by simp⟩
  | @semicolon token tokens hend =>
      have hnonempty : segments tokens ≠ [] := List.splitOnP_ne_nil _ tokens
      exact ⟨segments tokens, segments_append_cons h hend, by simp [hnonempty]⟩

/-- A token list is a last segment, or a segment with its semicolon before a token list. -/
theorem segment_induction {motive : List Token → Prop}
    (last : ∀ segment, Lacks segment .semicolon → motive segment)
    (semicolon : ∀ segment token tokens, Lacks segment .semicolon → token.kind = .semicolon →
      motive tokens → motive (segment ++ token :: tokens)) (tokens : List Token) :
    motive tokens := by
  -- `front` is what has been seen of the first segment
  have hfront : ∀ front, Lacks front .semicolon → motive (front ++ tokens) := by
    induction tokens with
    | nil =>
        intro front hlacks
        rw [List.append_nil]
        exact last front hlacks
    | cons token tokens ih =>
        intro front hlacks
        by_cases hend : token.kind = .semicolon
        · exact semicolon front token tokens hlacks hend (ih [] (lacks_nil _))
        · rw [List.append_cons]
          apply ih
          simpa [hend] using hlacks
  exact hfront [] (lacks_nil _)

/-! ## Reading a segment -/

/-- The style after a segment. -/
def declare (style : Style) (segment : List Token) : Style :=
  match entry? segment with
  | none => style
  | some (property, value) => style.set property value

/-- The last declaration of a property gives its value. -/
theorem get?_foldl_declare (style : Style) (listed : List (List Token)) (property : String) :
    (listed.foldl declare style).get? property =
      ((listed.filterMap entry?).reverse.lookup property).or (style.get? property) := by
  induction listed generalizing style with
  | nil => simp
  | cons segment listed ih =>
      rw [List.foldl_cons, ih, declare, List.filterMap_cons]
      cases entry? segment with
      | none => rfl
      | some entry =>
          obtain ⟨name, value⟩ := entry
          rw [List.reverse_cons, List.lookup_append, Option.or_assoc, get?_set,
            lookup_cons_eq_ite]
          by_cases hname : property = name <;> simp [hname]

/-- Reading value tokens appends their text to what there is of the value. -/
theorem readTokens_append (property text : String) (last : Option TokenKind) (style : Style)
    (hsemicolon : Lacks value .semicolon) (hcolon : Lacks value .colon) (rest : List Token) :
    ∃ after, (value ≠ [] ∨ last.isSome → after.isSome) ∧
      readTokens (.within property text last) style (value ++ rest) =
        readTokens (.within property (text ++ valueText last value) after) style rest := by
  induction value generalizing text last with
  | nil => exact ⟨last, by simp, by simp [valueText]⟩
  | cons token value ih =>
      obtain ⟨hsemicolonHead, hsemicolon⟩ := lacks_cons_iff.mp hsemicolon
      obtain ⟨hcolonHead, hcolon⟩ := lacks_cons_iff.mp hcolon
      obtain ⟨after, hafter, hread⟩ := ih
        (text ++ (if needsSpace last token.kind then " " else "") ++ token.text)
        (some token.kind) hsemicolon hcolon
      refine ⟨after, fun _ => hafter (Or.inr rfl), ?_⟩
      rw [List.cons_append, readTokens_within hcolonHead hsemicolonHead, hread]
      simp [valueText, String.append_assoc]

/-- A declaration is read up to the end of its value. -/
theorem Declares.read {name colon : Token} (h : Declares name colon value)
    (hlacks : Lacks value .semicolon) (style : Style) (rest : List Token) :
    ∃ kind, readTokens .ready style (name :: colon :: (value ++ rest)) =
      readTokens (.within name.text (valueText none value) (some kind)) style rest := by
  obtain ⟨after, hafter, hread⟩ :=
    readTokens_append name.text "" none style hlacks h.lacks_colon rest
  obtain ⟨kind, rfl⟩ := Option.isSome_iff_exists.mp (hafter (Or.inl h.nonempty))
  rw [String.empty_append] at hread
  exact ⟨kind, by simp only [readTokens, h.name_kind, h.colon_kind, hread]⟩

theorem Admissible.read_last (h : Admissible segment) (hlacks : Lacks segment .semicolon)
    (style : Style) : readTokens .ready style segment = .ok (declare style segment) := by
  cases h with
  | empty => rfl
  | declaration h =>
      simp only [lacks_cons_iff] at hlacks
      obtain ⟨kind, hread⟩ := h.read hlacks.2.2 style []
      rw [List.append_nil] at hread
      rw [hread, readTokens, declare, entry?]

theorem Admissible.read_semicolon (h : Admissible segment) (hlacks : Lacks segment .semicolon)
    (hend : token.kind = .semicolon) (style : Style) :
    readTokens .ready style (segment ++ token :: tokens) =
      readTokens .ready (declare style segment) tokens := by
  cases h with
  | empty => simp only [List.nil_append, readTokens, hend, declare, entry?]
  | declaration h =>
      simp only [lacks_cons_iff] at hlacks
      obtain ⟨kind, hread⟩ := h.read hlacks.2.2 style (token :: tokens)
      simp only [List.cons_append, hread, readTokens, hend, declare, entry?]

/-! ## Bad segments -/

/-- What is wrong with a segment that is not admissible, when `following` stands after it. -/
inductive FaultOf : List Token → List Token → StyleError → Prop
  | nameExpected {first : Token} {rest following : List Token}
      (hfirst : first.kind ≠ .identifier) :
      FaultOf (first :: rest) following
        (.misplacedToken first.position (.nameExpected first.text))
  | colonExpected {name second : Token} {rest following : List Token}
      (hname : name.kind = .identifier) (hsecond : second.kind ≠ .colon) :
      FaultOf (name :: second :: rest) following
        (.misplacedToken second.position (.colonExpected name.text second.text))
  /-- The segment is a name, and its semicolon stands where the colon should. -/
  | colonExpectedAtSemicolon {name semicolon : Token} {rest : List Token}
      (hname : name.kind = .identifier) :
      FaultOf [name] (semicolon :: rest)
        (.misplacedToken semicolon.position (.colonExpected name.text semicolon.text))
  | endAfterName {name : Token} (hname : name.kind = .identifier) :
      FaultOf [name] [] (.endAfterName name.text)
  | emptyValue {name colon : Token} {following : List Token} (hname : name.kind = .identifier)
      (hcolon : colon.kind = .colon) : FaultOf [name, colon] following (.emptyValue name.text)
  | colonInValue {name colon second : Token} {value rest following : List Token}
      (hname : name.kind = .identifier) (hcolon : colon.kind = .colon)
      (hvalue : Lacks value .colon) (hsecond : second.kind = .colon) :
      FaultOf (name :: colon :: (value ++ second :: rest)) following
        (.misplacedToken second.position (.colonInValue name.text))

/-- The first token of a kind. -/
theorem exists_first_of_not_lacks (h : ¬ Lacks tokens kind) :
    ∃ front first rest, tokens = front ++ first :: rest ∧ Lacks front kind ∧ first.kind = kind := by
  induction tokens with
  | nil => exact absurd (lacks_nil kind) h
  | cons token tokens ih =>
      by_cases hkind : token.kind = kind
      · exact ⟨[], token, tokens, rfl, lacks_nil kind, hkind⟩
      · rw [lacks_cons_iff, not_and] at h
        obtain ⟨front, first, rest, rfl, hfront, hfirst⟩ := ih (h hkind)
        exact ⟨token :: front, first, rest, rfl, lacks_cons_iff.mpr ⟨hkind, hfront⟩, hfirst⟩

/-- Every segment that is not admissible has a fault. -/
theorem exists_faultOf (h : ¬ Admissible bad) (following : List Token) :
    ∃ fault, FaultOf bad following fault := by
  cases bad with
  | nil => exact absurd .empty h
  | cons name rest =>
      by_cases hname : name.kind = .identifier
      case neg => exact ⟨_, .nameExpected hname⟩
      cases rest with
      | nil =>
          cases following with
          | nil => exact ⟨_, .endAfterName hname⟩
          | cons semicolon following => exact ⟨_, .colonExpectedAtSemicolon hname⟩
      | cons colon value =>
          by_cases hcolon : colon.kind = .colon
          case neg => exact ⟨_, .colonExpected hname hcolon⟩
          by_cases hvalue : Lacks value .colon
          · by_cases hnonempty : value = []
            · subst hnonempty
              exact ⟨_, .emptyValue hname hcolon⟩
            · exact absurd (.declaration ⟨hname, hcolon, hnonempty, hvalue⟩) h
          · obtain ⟨front, second, rest, rfl, hfront, hsecond⟩ :=
              exists_first_of_not_lacks hvalue
            exact ⟨_, .colonInValue hname hcolon hfront hsecond⟩

/-- Reading stops at a bad segment with its fault, whatever has been declared before. -/
theorem FaultOf.read (h : FaultOf bad following fault) (hlacks : Lacks bad .semicolon)
    (hending : Ending following) (style : Style) :
    readTokens .ready style (bad ++ following) = .error fault := by
  cases h with
  | @nameExpected first rest _ hfirst =>
      have hsemicolon : first.kind ≠ .semicolon := (lacks_cons_iff.mp hlacks).1
      simp [readTokens]
  | colonExpected hname hsecond => simp [readTokens, hname]
  | colonExpectedAtSemicolon hname =>
      cases hending with
      | semicolon hend => simp [readTokens, hname, hend]
  | endAfterName hname => simp [readTokens, hname]
  | emptyValue hname hcolon =>
      cases hending with
      | nothing => simp [readTokens, hname, hcolon]
      | semicolon hend => simp [readTokens, hname, hcolon, hend]
  | @colonInValue name colon second value rest _ hname hcolon hvalue hsecond =>
      simp only [lacks_cons_iff, lacks_append_iff] at hlacks
      obtain ⟨after, -, hread⟩ :=
        readTokens_append name.text "" none style hlacks.2.2.1 hvalue
          (second :: (rest ++ following))
      simp [readTokens, hname, hcolon, hread, hsecond]

/-! ## Reading a list -/

/-- The segments of a list that goes on after `before` are `earlier` and those of what goes on. -/
def SplitsAt (before : List Token) (earlier : List (List Token)) : Prop :=
  ∀ rest, segments (before ++ rest) = earlier ++ segments rest

/-- Where the first bad segment of a list stands, and what is wrong with it. -/
structure BadAt (tokens before : List Token) (earlier : List (List Token))
    (bad following : List Token) (fault : StyleError) : Prop where
  split : tokens = before ++ (bad ++ following)
  splitsAt : SplitsAt before earlier
  admissible : ∀ segment ∈ earlier, Admissible segment
  refused : ¬ Admissible bad
  lacks_semicolon : Lacks bad .semicolon
  ending : Ending following
  faultOf : FaultOf bad following fault

namespace BadAt

theorem exists_of_first (hrefused : ¬ Admissible bad) (hlacks : Lacks bad .semicolon)
    (hending : Ending following) :
    ∃ fault, BadAt (bad ++ following) [] [] bad following fault := by
  obtain ⟨fault, hfault⟩ := exists_faultOf hrefused following
  exact ⟨fault, rfl, fun _ => rfl, by simp, hrefused, hlacks, hending, hfault⟩

theorem cons (h : BadAt tokens before earlier bad following fault)
    (hsegment : Admissible segment) (hlacks : Lacks segment .semicolon)
    (hend : token.kind = .semicolon) :
    BadAt (segment ++ token :: tokens) (segment ++ token :: before) (segment :: earlier) bad
      following fault where
  split := by simp [h.split]
  splitsAt rest := by
    rw [List.append_assoc, List.cons_append, segments_append_cons hlacks hend, h.splitsAt rest,
      List.cons_append]
  admissible := List.forall_mem_cons.mpr ⟨hsegment, h.admissible⟩
  refused := h.refused
  lacks_semicolon := h.lacks_semicolon
  ending := h.ending
  faultOf := h.faultOf

end BadAt

/-- The reader makes the declarations of an accepted list, and it refuses every other list with the
fault of the first bad segment. -/
theorem readTokens_cases (tokens : List Token) (style : Style) :
    (Accepted tokens ∧
      readTokens .ready style tokens = .ok ((segments tokens).foldl declare style)) ∨
    (∃ before earlier bad following fault, BadAt tokens before earlier bad following fault ∧
      readTokens .ready style tokens = .error fault) := by
  induction tokens using segment_induction generalizing style with
  | last segment hlacks =>
      rw [Accepted, segments_of_lacks hlacks]
      by_cases hsegment : Admissible segment
      · refine Or.inl ⟨List.forall_mem_singleton.mpr hsegment, ?_⟩
        rw [hsegment.read_last hlacks]
        rfl
      · obtain ⟨fault, hbad⟩ := BadAt.exists_of_first hsegment hlacks .nothing
        have hread := hbad.faultOf.read hlacks .nothing style
        rw [List.append_nil] at hbad hread
        exact Or.inr ⟨[], [], segment, [], fault, hbad, hread⟩
  | semicolon segment token tokens hlacks hend ih =>
      rw [Accepted, segments_append_cons hlacks hend, List.forall_mem_cons, List.foldl_cons]
      by_cases hsegment : Admissible segment
      · rw [hsegment.read_semicolon hlacks hend]
        rcases ih (declare style segment) with ⟨haccepted, hread⟩ |
          ⟨before, earlier, bad, following, fault, hbad, hread⟩
        · exact Or.inl ⟨⟨hsegment, haccepted⟩, hread⟩
        · exact Or.inr ⟨_, _, bad, following, fault, hbad.cons hsegment hlacks hend, hread⟩
      · have hending : Ending (token :: tokens) := .semicolon hend
        obtain ⟨fault, hbad⟩ := BadAt.exists_of_first hsegment hlacks hending
        have hread := hbad.faultOf.read hlacks hending style
        exact Or.inr ⟨[], [], segment, token :: tokens, fault, hbad, hread⟩

/-! ## The first impossible token -/

/-- The token at the position is the first with which the list cannot be completed any more. -/
def FirstImpossible (tokens : List Token) (position : Nat) : Prop :=
  ∃ before token after, tokens = before ++ token :: after ∧ token.position = position ∧
    Viable before ∧ ¬ Viable (before ++ [token])

theorem admissible_cons_iff :
    Admissible (token :: tokens) ↔
      ∃ colon value, tokens = colon :: value ∧ Declares token colon value := by
  constructor
  · intro h
    cases h with
    | declaration h => exact ⟨_, _, rfl, h⟩
  · rintro ⟨colon, value, rfl, h⟩
    exact .declaration h

namespace SplitsAt

theorem viable (h : SplitsAt before earlier) (completion : List Token)
    (hearlier : ∀ segment ∈ earlier, Admissible segment)
    (hlacks : Lacks (front ++ completion) .semicolon)
    (hcompleted : Admissible (front ++ completion)) : Viable (before ++ front) := by
  refine ⟨completion, ?_⟩
  rw [Accepted, List.append_assoc, h, segments_of_lacks hlacks]
  exact List.forall_mem_append.mpr ⟨hearlier, List.forall_mem_singleton.mpr hcompleted⟩

/-- A name is completed by a colon and a word. -/
theorem viable_name {name : Token} (h : SplitsAt before earlier)
    (hearlier : ∀ segment ∈ earlier, Admissible segment) (hname : name.kind = .identifier) :
    Viable (before ++ [name]) := by
  apply h.viable [⟨.colon, ":", 0⟩, ⟨.identifier, "x", 0⟩] hearlier
  · simp [hname]
  · exact .declaration ⟨hname, rfl, by simp, by simp⟩

/-- A value without a colon is completed by a word. -/
theorem viable_value {name colon : Token} (h : SplitsAt before earlier)
    (hearlier : ∀ segment ∈ earlier, Admissible segment) (hname : name.kind = .identifier)
    (hcolon : colon.kind = .colon) (hlacks : Lacks value .semicolon)
    (hvalue : Lacks value .colon) : Viable (before ++ (name :: colon :: value)) := by
  apply h.viable [⟨.identifier, "x", 0⟩] hearlier
  · simp [hname, hcolon, hlacks]
  · exact .declaration ⟨hname, hcolon, by simp, by simp [hvalue]⟩

theorem not_viable (h : SplitsAt before earlier)
    (hfirst : ∀ rest, ∃ segment ∈ segments (front ++ rest), ¬ Admissible segment) :
    ¬ Viable (before ++ front) := by
  rintro ⟨rest, haccepted⟩
  obtain ⟨segment, hmem, hrefused⟩ := hfirst rest
  apply hrefused
  apply haccepted
  rw [List.append_assoc, h]
  exact List.mem_append_right _ hmem

/-- No semicolon has come, so the segment that is bad so far only goes on. -/
theorem not_viable_of_lacks (h : SplitsAt before earlier) (hlacks : Lacks front .semicolon)
    (hrefused : ∀ more, ¬ Admissible (front ++ more)) : ¬ Viable (before ++ front) := by
  apply h.not_viable
  intro rest
  obtain ⟨more, others, hsegments⟩ := exists_segments_append hlacks rest
  exact ⟨front ++ more, hsegments ▸ List.mem_cons_self, hrefused more⟩

end SplitsAt

/-- A fault that names a token names the first impossible one. -/
theorem BadAt.firstImpossible {position : Nat} {cause : Misplaced}
    (h : BadAt tokens before earlier bad following (.misplacedToken position cause)) :
    FirstImpossible tokens position := by
  obtain ⟨rfl, hsplits, hearlier, -, hlacks, hending, hfault⟩ := h
  cases hfault with
  | @nameExpected first rest _ hfirst =>
      refine ⟨before, first, rest ++ following, by simp, rfl, ?_, ?_⟩
      · rw [← List.append_nil before]
        exact hsplits.viable [] hearlier (lacks_nil _) .empty
      · apply hsplits.not_viable_of_lacks
        · simp [(lacks_cons_iff.mp hlacks).1]
        · intro more hmore
          obtain ⟨colon, value, -, hdeclares⟩ := admissible_cons_iff.mp hmore
          exact hfirst hdeclares.name_kind
  | @colonExpected name second rest _ hname hsecond =>
      refine ⟨before ++ [name], second, rest ++ following, by simp, rfl,
        hsplits.viable_name hearlier hname, ?_⟩
      rw [List.append_assoc]
      apply hsplits.not_viable_of_lacks
      · simp only [lacks_cons_iff] at hlacks
        simp [hlacks]
      · intro more hmore
        obtain ⟨colon, value, heq, hdeclares⟩ := admissible_cons_iff.mp hmore
        cases heq
        exact hsecond hdeclares.colon_kind
  | @colonExpectedAtSemicolon name semicolon rest hname =>
      cases hending with
      | semicolon hend =>
        refine ⟨before ++ [name], semicolon, rest, by simp, rfl,
          hsplits.viable_name hearlier hname, ?_⟩
        rw [List.append_assoc]
        apply hsplits.not_viable
        intro more
        refine ⟨[name], ?_, fun hmore => ?_⟩
        · have hsegments : segments ([name] ++ [semicolon] ++ more) = [name] :: segments more :=
            segments_append_cons hlacks hend
          exact hsegments ▸ List.mem_cons_self
        · obtain ⟨colon, value, heq, -⟩ := admissible_cons_iff.mp hmore
          cases heq
  | @colonInValue name colon second value rest _ hname hcolon hvalue hsecond =>
      simp only [lacks_cons_iff, lacks_append_iff] at hlacks
      refine ⟨before ++ (name :: colon :: value), second, rest ++ following, by simp, rfl,
        hsplits.viable_value hearlier hname hcolon hlacks.2.2.1 hvalue, ?_⟩
      rw [List.append_assoc]
      apply hsplits.not_viable_of_lacks
      · simp [hlacks]
      · intro more hmore
        obtain ⟨_, _, heq, hdeclares⟩ := admissible_cons_iff.mp hmore
        cases heq
        have hinside := hdeclares.lacks_colon
        simp [hsecond] at hinside

/-! ## Faults of declaration lists -/

/-- What the fault says when `bad` is the first bad segment and `later` are those after it. -/
structure Blames (tokens bad : List Token) (later : List (List Token)) (fault : StyleError) :
    Prop where
  emptyValue_iff : ∀ property, fault = .emptyValue property ↔
    ∃ name colon, bad = [name, colon] ∧ name.kind = .identifier ∧ colon.kind = .colon ∧
      name.text = property
  endAfterName_iff : ∀ property, fault = .endAfterName property ↔
    ∃ name, bad = [name] ∧ later = [] ∧ name.kind = .identifier ∧ name.text = property
  firstImpossible : ∀ position cause, fault = .misplacedToken position cause →
    FirstImpossible tokens position
  tokenized : ∀ position found, fault ≠ .invalidCharacter position found

theorem FaultOf.eq_emptyValue_iff {property : String} (h : FaultOf bad following fault) :
    fault = .emptyValue property ↔ ∃ name colon, bad = [name, colon] ∧ name.kind = .identifier ∧
      colon.kind = .colon ∧ name.text = property := by
  cases h with
  | nameExpected hfirst => simp [hfirst]
  | colonExpected hname hsecond => simp [hsecond]
  | colonExpectedAtSemicolon hname => simp
  | endAfterName hname => simp
  | emptyValue hname hcolon => simp [hname, hcolon]
  | colonInValue hname hcolon hvalue hsecond => simp

theorem FaultOf.eq_endAfterName_iff {property : String} (h : FaultOf bad following fault) :
    fault = .endAfterName property ↔ ∃ name, bad = [name] ∧ following = [] ∧
      name.kind = .identifier ∧ name.text = property := by
  cases h with
  | nameExpected hfirst => simp [hfirst]
  | colonExpected hname hsecond => simp
  | colonExpectedAtSemicolon hname => simp
  | endAfterName hname => simp [hname]
  | emptyValue hname hcolon => simp
  | colonInValue hname hcolon hvalue hsecond => simp

theorem BadAt.exists_blames (h : BadAt tokens before earlier bad following fault) :
    ∃ later, segments tokens = earlier ++ bad :: later ∧ Blames tokens bad later fault := by
  obtain ⟨later, hsegments, hlater⟩ := exists_segments_of_ending h.lacks_semicolon h.ending
  refine ⟨later, ?_, fun property => h.faultOf.eq_emptyValue_iff, fun property => ?_, ?_, ?_⟩
  · rw [h.split, h.splitsAt, hsegments]
  · rw [hlater]
    exact h.faultOf.eq_endAfterName_iff
  · rintro position cause rfl
    exact h.firstImpossible
  · rintro position found rfl
    cases h.faultOf

theorem BadAt.not_accepted (h : BadAt tokens before earlier bad following fault) :
    ¬ Accepted tokens := by
  obtain ⟨later, hsegments, -⟩ := h.exists_blames
  intro haccepted
  apply h.refused
  apply haccepted
  rw [hsegments]
  exact List.mem_append_right _ List.mem_cons_self

/-- A text is read when its tokens are accepted, as the declarations that they are; otherwise the
first bad segment is blamed, or the first character at which no token begins. -/
theorem parse_grammar (input : String) :
    match tokenize input with
    | .error fault => parse input = .error fault
    | .ok tokens =>
        ((∃ style, parse input = .ok style) ↔ Accepted tokens) ∧
        (∀ style, parse input = .ok style →
          ∀ property, style.get? property = (declaredEntries tokens).reverse.lookup property) ∧
        (∀ fault, parse input = .error fault → ∃ earlier bad later,
          segments tokens = earlier ++ bad :: later ∧
          (∀ segment ∈ earlier, Admissible segment) ∧ ¬ Admissible bad ∧
          Blames tokens bad later fault) := by
  rw [parse]
  cases htokens : tokenize input with
  | error fault => rfl
  | ok tokens =>
      dsimp only
      rcases readTokens_cases tokens empty with ⟨haccepted, hread⟩ |
        ⟨before, earlier, bad, following, fault, hbad, hread⟩
      · rw [hread]
        refine ⟨⟨fun _ => haccepted, fun _ => ⟨_, rfl⟩⟩, ?_, fun fault hfault => by cases hfault⟩
        rintro style hstyle property
        cases hstyle
        rw [get?_foldl_declare, declaredEntries]
        exact Option.or_none
      · rw [hread]
        refine ⟨⟨fun hstyle => ?_, fun haccepted => absurd haccepted hbad.not_accepted⟩,
          fun _ hstyle => ?_, fun other hother => ?_⟩
        · obtain ⟨_, hstyle⟩ := hstyle
          cases hstyle
        · cases hstyle
        · cases hother
          obtain ⟨later, hsegments, hblames⟩ := hbad.exists_blames
          exact ⟨earlier, bad, later, hsegments, hbad.admissible, hbad.refused, hblames⟩

end Storyboard.Style
