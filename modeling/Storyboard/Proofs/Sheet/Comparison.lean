import Storyboard.Proofs.Sheet.Characters
import Storyboard.Proofs.Sheet.Normal
import Storyboard.Proofs.Style.Grammar

/-!
# Sheets and style text compared

A text that is both a sheet and style text has the same letters in both languages, and the letters
determine the declarations.  So the two languages read the same properties in the same order, with
values of the same letters (`expand_parse_letters`).  They make the same style just if they cut the
values into the same words; where a word runs into a number behind a dash they do not
(`dashedNumber_differs`).
-/

namespace Storyboard.Style

/-- Pairs of the same different names that are all among the others are the same. -/
theorem eq_of_map_fst_eq {first second : List (String × String)}
    (hnames : first.map Prod.fst = second.map Prod.fst) (hdistinct : (first.map Prod.fst).Nodup)
    (h : ∀ pair ∈ first, pair ∈ second) : first = second := by
  induction first generalizing second with
  | nil => exact (List.map_eq_nil_iff.mp hnames.symm).symm
  | cons pair first ih =>
      cases second with
      | nil => cases hnames
      | cons other second =>
          obtain ⟨hname, hrest⟩ := List.cons.inj hnames
          obtain ⟨hnew, hdistinct⟩ := List.nodup_cons.mp hdistinct
          obtain ⟨hpair, hall⟩ := List.forall_mem_cons.mp h
          have hsame : pair = other := by
            rcases List.mem_cons.mp hpair with heq | hmem
            · exact heq
            · rw [hrest] at hnew
              exact absurd (List.mem_map_of_mem hmem) hnew
          subst hsame
          have hbehind : ∀ later ∈ first, later ∈ second := by
            intro later hlater
            rcases List.mem_cons.mp (hall later hlater) with rfl | hmem
            · exact absurd (List.mem_map_of_mem hlater) hnew
            · exact hmem
          rw [ih hrest hdistinct hbehind]

/-- Pairs of the same different names make the same style just if they are the same. -/
theorem ofList_eq_iff {first second : List (String × String)}
    (hnames : first.map Prod.fst = second.map Prod.fst) (hdistinct : (first.map Prod.fst).Nodup) :
    ofList first = ofList second ↔ first = second := by
  refine ⟨fun h => eq_of_map_fst_eq hnames hdistinct fun pair hpair => ?_, congrArg ofList⟩
  rw [← mem_ofList_iff hdistinct, h, mem_ofList_iff (hnames ▸ hdistinct)] at hpair
  exact hpair

end Storyboard.Style

namespace Storyboard.Sheet

open Storyboard.Text (quoteChars)
open Storyboard.Code (readAs read?)
open Storyboard.Style (Lexeme Plain joined plain_of_identifier segments declaredEntries valueText)

variable {tokens : List Style.Token} {lexemes : List Lexeme} {text : List Char}

/-! ## Style text -/

/-- The letters of a value are those of its lexemes. -/
theorem leaves_joined (h : ∀ lexeme ∈ lexemes, Intact lexeme.text) (last : Option Style.TokenKind) :
    Leaves (joined last lexemes) (lexemes.flatMap Lexeme.text) ∧
      Intact (lexemes.flatMap Lexeme.text) := by
  induction lexemes generalizing last with
  | nil => exact ⟨.nil, .nil⟩
  | cons lexeme lexemes ih =>
      obtain ⟨hlexeme, hrest⟩ := List.forall_mem_cons.mp h
      obtain ⟨hleaves, hintact⟩ := ih hrest (some lexeme.kind)
      have hgap : Leaves (Style.gap last lexeme.kind) [] := by
        rw [Style.gap]
        split
        · exact leaves_blank rfl
        · exact .nil
      exact ⟨(hgap.append hlexeme.leaves).append hleaves, hlexeme.append hintact⟩

/-- The value of tokens is the text of their lexemes. -/
theorem valueText_eq_joined (h : List.Forall₂ Style.Token.Is tokens lexemes)
    (last : Option Style.TokenKind) :
    valueText last tokens = String.ofList (joined last lexemes) := by
  induction h generalizing last with
  | nil => rfl
  | @cons token lexeme tokens lexemes htoken _ ih =>
      rw [valueText, joined, ih, htoken.kind_eq, htoken.text_eq, String.ofList_append,
        String.ofList_append, Style.ofList_gap]

theorem exists_split {first rest : List Style.Token}
    (h : List.Forall₂ Style.Token.Is (first ++ rest) lexemes) :
    ∃ front back, lexemes = front ++ back ∧ List.Forall₂ Style.Token.Is first front ∧
      List.Forall₂ Style.Token.Is rest back :=
  ⟨lexemes.take first.length, lexemes.drop first.length, (List.take_append_drop _ _).symm,
    (List.forall₂_take_append _ _ _ h.flip).flip, (List.forall₂_drop_append _ _ _ h.flip).flip⟩

/-- No lexeme has a kind that no token has. -/
theorem kind_ne_of_lacks {kind : Style.TokenKind} (h : List.Forall₂ Style.Token.Is tokens lexemes)
    (hlacks : Style.Lacks tokens kind) : ∀ lexeme ∈ lexemes, lexeme.kind ≠ kind := by
  induction h with
  | nil => exact fun _ hmem => absurd hmem List.not_mem_nil
  | cons htoken _ ih =>
      obtain ⟨hkind, hrest⟩ := Style.lacks_cons_iff.mp hlacks
      exact List.forall_mem_cons.mpr ⟨htoken.kind_eq ▸ hkind, ih hrest⟩

/-- The name of a declaration of style text, and the letters of its value. -/
def styledEntry (styled : Style.Declaration) : List Char × List Char :=
  (styled.name.text, styled.value.flatMap Lexeme.text)

/-- An admissible segment is empty or the lexemes of a declaration. -/
theorem declaration_of_admissible {segment : List Style.Token}
    (h : List.Forall₂ Style.Token.Is segment lexemes) (hadmissible : Style.Admissible segment)
    (hlacks : Style.Lacks segment .semicolon) :
    (segment = [] ∧ lexemes = []) ∨ ∃ styled : Style.Declaration,
      lexemes = styled.name :: Style.colon :: styled.value ∧
        Style.entry? segment = some styled.entry := by
  cases hadmissible with
  | empty =>
      cases h
      exact Or.inl ⟨rfl, rfl⟩
  | @declaration name colon value hdeclares =>
      obtain ⟨hname, hcolon, hnonempty, hcolons⟩ := hdeclares
      simp only [Style.lacks_cons_iff] at hlacks
      cases h with
      | @cons _ first _ _ hfirst h =>
      cases h with
      | @cons _ second _ rest hsecond hrest =>
      have hinValue : ∀ lexeme ∈ rest, lexeme.InValue := fun lexeme hlexeme =>
        ⟨kind_ne_of_lacks hrest hcolons lexeme hlexeme,
          kind_ne_of_lacks hrest hlacks.2.2 lexeme hlexeme⟩
      have hne : rest ≠ [] := by
        rintro rfl
        cases hrest
        exact hnonempty rfl
      have hsecondText : second.text = [':'] := by
        apply Lexeme.text_eq_singleton
        rw [← hsecond.kind_eq, hcolon]
        rfl
      obtain rfl : second = Style.colon := eq_of_text_eq hsecondText
      refine Or.inr ⟨⟨first, rest, hfirst.kind_eq.symm.trans hname, hne, hinValue⟩, rfl, ?_⟩
      rw [Style.entry?, hfirst.text_eq, valueText_eq_joined hrest]
      rfl

/-- The letters of a value, where its lexemes are intact. -/
theorem leaves_styledEntry (styled : Style.Declaration)
    (h : ∀ lexeme ∈ styled.value, lexeme.kind ≠ .semicolon → Intact lexeme.text) :
    Leaves styled.entry.2.toList (styledEntry styled).2 ∧ Intact (styledEntry styled).2 := by
  have hall : ∀ lexeme ∈ styled.value, Intact lexeme.text :=
    fun lexeme hlexeme => h lexeme hlexeme (styled.inValue lexeme hlexeme).2
  rw [Style.Declaration.entry, String.toList_ofList]
  exact leaves_joined hall none

/-- Accepted style text has the letters of its declarations. -/
theorem sheeted_of_accepted (h : List.Forall₂ Style.Token.Is tokens lexemes)
    (haccepted : Style.Accepted tokens)
    (hintact : ∀ lexeme ∈ lexemes, lexeme.kind ≠ .semicolon → Intact lexeme.text) :
    ∃ styled : List Style.Declaration, declaredEntries tokens = styled.map Style.Declaration.entry ∧
      (∀ declaration ∈ styled,
        Leaves declaration.entry.2.toList (styledEntry declaration).2) ∧
      Sheeted (styled.map styledEntry) (lexemes.flatMap Lexeme.text) := by
  induction tokens using Style.segment_induction generalizing lexemes with
  | last segment hlacks =>
      rw [Style.Accepted, Style.segments_of_lacks hlacks, List.forall_mem_singleton] at haccepted
      rw [declaredEntries, Style.segments_of_lacks hlacks]
      rcases declaration_of_admissible h haccepted hlacks with ⟨rfl, rfl⟩ | ⟨styled, rfl, hentry⟩
      · exact ⟨[], rfl, by simp, .done⟩
      · obtain ⟨hleaves, hvalue⟩ := leaves_styledEntry styled
          fun lexeme hlexeme => hintact lexeme (by simp [hlexeme])
        refine ⟨[styled], by simp [hentry], by simpa using hleaves, ?_⟩
        exact .last (plain_of_identifier styled.name_kind) hvalue
  | semicolon segment token tokens hlacks hend ih =>
      obtain ⟨front, back, rfl, hfront, hback⟩ := exists_split h
      cases hback with
      | @cons _ ending _ back hending hback =>
      obtain rfl : ending = Style.semicolon := by
        apply eq_of_text_eq
        apply Lexeme.text_eq_singleton
        rw [← hending.kind_eq, hend]
        rfl
      rw [Style.Accepted, Style.segments_append_cons hlacks hend, List.forall_mem_cons] at haccepted
      obtain ⟨styled, hentries, hleaves, hsheeted⟩ := ih hback haccepted.2
        fun lexeme hlexeme => hintact lexeme (by simp [hlexeme])
      rw [declaredEntries, Style.segments_append_cons hlacks hend, List.filterMap_cons]
      rcases declaration_of_admissible hfront haccepted.1 hlacks with
        ⟨rfl, rfl⟩ | ⟨first, rfl, hentry⟩
      · exact ⟨styled, hentries, hleaves, hsheeted.stray⟩
      · obtain ⟨hfirst, hvalue⟩ := leaves_styledEntry first
          fun lexeme hlexeme => hintact lexeme (by simp [hlexeme])
        refine ⟨first :: styled, ?_, List.forall_mem_cons.mpr ⟨hfirst, hleaves⟩, ?_⟩
        · rw [hentry]
          exact congrArg (first.entry :: ·) hentries
        · have hentry := Sheeted.entry (plain_of_identifier first.name_kind) hvalue hsheeted
          simpa [styledEntry, Style.colon, Style.semicolon] using hentry

/-! ## Comparison -/

/-- The declarations set the same property, to values that have the same letters. -/
def SameLetters (declaration : Declaration) (styled : Style.Declaration) : Prop :=
  declaration.entry.1 = styled.entry.1 ∧
    letters false declaration.entry.2.toList = letters false styled.entry.2.toList

/-- The lexemes of the value are the words that the sheet reads. -/
def SameWords (declaration : Declaration) (styled : Style.Declaration) : Prop :=
  ∃ wording : Wording, wording.values = declaration.values ∧ wording.lexemes = styled.value

/-- Values are written alike just if they are made of the same words. -/
theorem sameWords_iff {declaration : Declaration} {styled : Style.Declaration}
    (hwritten : Written declaration.values) :
    SameWords declaration styled ↔ declaration.entry.2 = styled.entry.2 := by
  constructor
  · rintro ⟨wording, hvalues, hlexemes⟩
    rw [Declaration.entry, Style.Declaration.entry, Declaration.value, ← hvalues, ← hlexemes]
    exact (wording.joined_lexemes none).symm
  · intro h
    have hjoined : joined none styled.value =
        (Wording.spelled false declaration.values).toList ++ [] := by
      have htext := congrArg String.toList h
      rw [Style.Declaration.entry, String.toList_ofList] at htext
      rw [List.append_nil, ← htext]
      rfl
    obtain ⟨wording, more, before, hvalues, hlexemes, hmore⟩ :=
      hwritten.exists_wording (Code.follows_nil _) .done hjoined
    have hnil : more = [] := by
      cases more with
      | nil => rfl
      | cons lexeme more =>
          rw [joined] at hmore
          simp [lexeme.nonempty] at hmore
    refine ⟨wording, hvalues, ?_⟩
    rw [hlexemes, hnil, List.append_nil]

/-- A plainly quoted text has the letters of the code that it is. -/
theorem letters_of_read? {input : String} {code : Code}
    (hquoted : PlainlyQuoted (isStyled · = true) input.toList) (h : read? input = some code) :
    letters false input.toList = codeChars code ∧ SolidCode code := by
  obtain ⟨listed, hlisted, hassemble⟩ := Option.bind_eq_some_iff.mp h
  have hmark : Code.withoutByteOrderMark input.toList = input.toList := by
    cases hinput : input.toList with
    | nil => rfl
    | cons c rest =>
        rw [hinput] at hquoted
        have hc : c ≠ '\ufeff' := by
          rintro rfl
          have hstyled := (hquoted.of_cons (by decide)).1
          revert hstyled
          decide
        rw [Code.withoutByteOrderMark, if_neg (by simpa using hc)]
  rw [hmark] at hlisted
  obtain ⟨hleaves, hsolid⟩ := leaves_of_lexemesFrom? hlisted hquoted
  rw [hleaves.eq, codeChars, SolidCode, Code.lexemes_of_assemble? hassemble]
  exact ⟨rfl, hsolid⟩

/-- The style of an accepted list is that of its declarations. -/
theorem foldl_declare (style : Style) (listed : List (List Style.Token)) :
    listed.foldl Style.declare style =
      (listed.filterMap Style.entry?).foldl
        (fun style (property, value) => style.set property value) style := by
  induction listed generalizing style with
  | nil => rfl
  | cons segment listed ih =>
      rw [List.foldl_cons, ih, List.filterMap_cons, Style.declare]
      cases Style.entry? segment with
      | none => rfl
      | some entry => rfl

/-- Both languages read the same properties in the same order, with values of the same letters. -/
theorem same_letters {input : String} {declarations : List Declaration} {style : Style}
    (hquoted : PlainlyQuoted (· ≠ '\'') input.toList)
    (hread : readAs readDeclarations input = .ok declarations)
    (hparse : Style.parse input = .ok style) :
    ∃ tokens styled, Style.tokenize input = .ok tokens ∧
      declaredEntries tokens = styled.map Style.Declaration.entry ∧
      style = .ofList (styled.map Style.Declaration.entry) ∧
      List.Forall₂ SameLetters declarations styled := by
  rw [Style.parse] at hparse
  split at hparse
  case h_1 => cases hparse
  case h_2 tokens htokens =>
    obtain ⟨haccepted, hstyle⟩ : Style.Accepted tokens ∧
        style = (segments tokens).foldl Style.declare .empty := by
      rcases Style.readTokens_cases tokens .empty with ⟨haccepted, hread⟩ |
        ⟨_, _, _, _, _, _, hread⟩
      · rw [hread] at hparse
        cases hparse
        exact ⟨haccepted, rfl⟩
      · rw [hread] at hparse
        cases hparse
    obtain ⟨lexemes, hcuts, hlexemes⟩ := Style.cuts_of_tokensFrom htokens
    obtain ⟨hstyled, hleaves, hintact⟩ := leaves_of_cuts hcuts hquoted
    obtain ⟨styled, hentries, hvalues, hsheeted⟩ := sheeted_of_accepted hlexemes haccepted hintact
    refine ⟨tokens, styled, htokens, hentries, ?_, ?_⟩
    · rw [hstyle, foldl_declare, ← hentries]
      rfl
    · unfold readAs at hread
      cases hcode : read? input with
      | none =>
          rw [hcode] at hread
          cases hread
      | some code =>
          rw [hcode] at hread
          obtain ⟨hletters, hsolid⟩ := letters_of_read? hstyled hcode
          obtain ⟨entries, hentered, hhas⟩ := sheeted_of_readDeclarations hread hsolid
          rw [← hletters, hleaves.eq] at hentered
          rw [hentered.unique hsheeted, List.forall₂_map_right_iff] at hhas
          have hboth := (List.forall₂_and_left _ _).mpr ⟨hvalues, hhas.flip⟩
          refine hboth.flip.imp fun declaration first h => ?_
          obtain ⟨hfirst, hname, hvalue⟩ := h
          refine ⟨?_, hvalue.eq.trans hfirst.eq.symm⟩
          have hproperty := congrArg String.ofList hname
          rwa [String.ofList_toList] at hproperty

/-- Declarations with the same names have the same entries just if their words are the same. -/
theorem forall_sameWords_iff {declarations : List Declaration} {styled : List Style.Declaration}
    (h : List.Forall₂ SameLetters declarations styled)
    (hwritten : ∀ declaration ∈ declarations, Written declaration.values) :
    List.Forall₂ SameWords declarations styled ↔
      declarations.map Declaration.entry = styled.map Style.Declaration.entry := by
  induction h with
  | nil => simp
  | cons hfirst _ ih =>
      obtain ⟨hwords, hrest⟩ := List.forall_mem_cons.mp hwritten
      rw [List.forall₂_cons, ih hrest, sameWords_iff hwords, List.map_cons, List.map_cons,
        List.cons.injEq, Prod.ext_iff]
      simp [hfirst.1]

/-- A sheet that is style text as well, and whose quotes are plain, declares the same properties in
both languages, with values of the same letters.  The style is the same just if the words are. -/
theorem expand_parse_letters {input : String} {code : Code} {style : Style}
    (hquoted : PlainlyQuoted (· ≠ '\'') input.toList) (hexpand : expand input = .ok code)
    (hparse : Style.parse input = .ok style) :
    ∃ declarations tokens styled, readAs readDeclarations input = .ok declarations ∧
      Style.tokenize input = .ok tokens ∧
      declaredEntries tokens = styled.map Style.Declaration.entry ∧
      List.Forall₂ SameLetters declarations styled ∧
      (built? code = some style ↔ List.Forall₂ SameWords declarations styled) := by
  obtain ⟨declarations, hread, hwritten, rfl, hdistinct⟩ := exists_declarations_of_expand hexpand
  obtain ⟨tokens, styled, htokens, hentries, rfl, hletters⟩ := same_letters hquoted hread hparse
  refine ⟨declarations, tokens, styled, hread, htokens, hentries, hletters, ?_⟩
  have hnames : (declarations.map Declaration.entry).map Prod.fst =
      (styled.map Style.Declaration.entry).map Prod.fst := by
    rw [← List.forall₂_eq_eq_eq]
    simpa using hletters.imp fun _ _ h => h.1
  have hproperties : ((declarations.map Declaration.entry).map Prod.fst).Nodup := by
    simpa [Declaration.entry, Function.comp_def] using hdistinct
  rw [built?_expansion, Option.some_inj, styleOf, Style.ofList_eq_iff hnames hproperties,
    forall_sameWords_iff hletters fun declaration hmem => (hwritten declaration hmem).2]

/-- A text in quotes with blanks in it, and a name right before a negative number. -/
def mixedText : String := "content: \"a  b\" col-2; width : 2px"

def mixedCode : Code :=
  expansion [⟨"content", [.plain "\"a  b\"", .plain "col", .plain "-2"]⟩, ⟨"width", [.plain "2px"]⟩]

def mixedStyle : Style := (Style.empty.set "content" "\"a  b\" col-2").set "width" "2px"

theorem expand_parse_letters_mixed :
    PlainlyQuoted (· ≠ '\'') mixedText.toList ∧ expand mixedText = .ok mixedCode ∧
      Style.parse mixedText = .ok mixedStyle ∧
      ∃ declarations tokens styled, readAs readDeclarations mixedText = .ok declarations ∧
        Style.tokenize mixedText = .ok tokens ∧
        declaredEntries tokens = styled.map Style.Declaration.entry ∧
        List.Forall₂ SameLetters declarations styled ∧
        (built? mixedCode = some mixedStyle ↔ List.Forall₂ SameWords declarations styled) := by
  have hends : ∀ c ∈ "content: ".toList.getLast?, c ∈ Style.separators := by
    simp [Style.separators, Style.blanks]
  have hlast : PlainlyQuoted (· ≠ '\'') (" col-2; width : 2px".toList ++ []) :=
    .append (List.all_iff_forall_prop.mp (by decide)) (by simp) .done
  have hquoted : PlainlyQuoted (· ≠ '\'')
      ("content: ".toList ++ (quoteChars "a  b".toList ++ (" col-2; width : 2px".toList ++ []))) :=
    .append (List.all_iff_forall_prop.mp (by decide)) (fun _ => hends)
      (.quoted (by simp) (by decide) hlast)
  have hexpand : expand mixedText = .ok mixedCode := by decide +kernel
  have hparse : Style.parse mixedText = .ok mixedStyle := by decide +kernel
  exact ⟨hquoted, hexpand, hparse, expand_parse_letters hquoted hexpand hparse⟩

/-- The code of a sheet with a name right before a negative number. -/
def splitCode : Code := expansion [⟨"area", [.plain "col", .plain "-2"]⟩]

/-- In style text the name takes the dash and the digits. -/
theorem dashedNumber_differs :
    expand "area: col-2;" = .ok splitCode ∧
      built? splitCode = some (Style.empty.set "area" "col -2") ∧
      Style.parse "area: col-2;" = .ok (Style.empty.set "area" "col-2") ∧
      built? splitCode ≠ some (Style.empty.set "area" "col-2") := by
  decide +kernel

end Storyboard.Sheet
