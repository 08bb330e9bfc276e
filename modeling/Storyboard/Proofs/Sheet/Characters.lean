import Storyboard.Proofs.Sheet.Pieces

/-!
# What a sheet is made of

Reading a sheet drops no character of its code.  What is read as a value, a property or a
declaration has the characters of the tokens that are taken, and the values of a sheet are written
with those characters and spaces (`Spells`).  So the characters of a whole sheet are those of its
declarations, with the colons and the semicolons between them (`sheeted_of_readDeclarations`), and
the characters determine the properties and the letters of their values (`Sheeted.unique`).
-/

namespace Storyboard.Sheet

open Storyboard.Code (eq_of_append_eq)
open Storyboard.Style (Plain)
open Storyboard.Text (quoteChars)

variable {code rest : Code} {found : Piece} {text : List Char}

/-- The characters of code without blanks. -/
def codeChars (code : Code) : List Char := code.lexemes.flatMap lexemeChars

/-- Words, numbers and texts of the code are solid. -/
def SolidCode (code : Code) : Prop := AllSolid code.lexemes

@[simp]
theorem codeChars_done : codeChars .done = [] := rfl

@[simp]
theorem codeChars_token (head : Code.Token) :
    codeChars (.token head rest) = tokenChars head ++ codeChars rest := rfl

@[simp]
theorem codeChars_group (bracket : Code.Bracket) (inner : Code) :
    codeChars (.group bracket inner rest) =
      bracket.openingChar :: (codeChars inner ++ bracket.closingChar :: codeChars rest) := by
  simp [codeChars, Code.lexemes, lexemeChars]

@[simp]
theorem tokenChars_word (spelling : String) : tokenChars (.word spelling) = spelling.toList := rfl

@[simp]
theorem tokenChars_number (spelling : String) :
    tokenChars (.number spelling) = spelling.toList := rfl

@[simp]
theorem tokenChars_sign (c : Char) (isJoined : Bool) : tokenChars (.sign c isJoined) = [c] := by
  simp [tokenChars, Code.Token.spelling]

@[simp]
theorem tokenChars_text (contents : String) :
    tokenChars (.text contents) = quoteChars contents.toList := rfl

theorem SolidCode.token {head : Code.Token} (h : SolidCode (.token head rest)) :
    IsSolid head ∧ SolidCode rest :=
  ⟨h head List.mem_cons_self, fun token htoken => h token (List.mem_cons_of_mem _ htoken)⟩

theorem SolidCode.group {bracket : Code.Bracket} {inner : Code}
    (h : SolidCode (.group bracket inner rest)) : SolidCode inner ∧ SolidCode rest := by
  constructor <;> intro token htoken <;> apply h <;> simp [Code.lexemes, htoken]

/-! ## One value -/

/-- The characters of what a value is made of. -/
def pieceChars : Piece → List Char
  | .plain text => text.toList
  | .call name arguments => name.toList ++ '(' :: (codeChars arguments ++ [')'])

/-- A value is written with its own characters, and the code in its brackets is solid. -/
def SolidPiece : Piece → Prop
  | .plain text => Intact text.toList
  | .call name arguments => Intact name.toList ∧ SolidCode arguments

/-- The piece is read off the code, and the rest is left. -/
structure Takes (code : Code) (found : Piece) (rest : Code) : Prop where
  chars : codeChars code = pieceChars found ++ codeChars rest
  solid : SolidPiece found
  rest_solid : SolidCode rest

theorem takes_plain {text : String} (hchars : codeChars code = text.toList ++ codeChars rest)
    (htext : Plain text.toList) (hrest : SolidCode rest) : Takes code (.plain text) rest :=
  ⟨hchars, intact_plain htext, hrest⟩

theorem dashed_chars {name : String} (hname : Plain name.toList) (hsolid : SolidCode code) :
    name.toList ++ codeChars code = (dashed name code).1.toList ++ codeChars (dashed name code).2 ∧
      Plain (dashed name code).1.toList ∧ SolidCode (dashed name code).2 := by
  fun_induction dashed name code with
  | case1 name isJoined next rest _ ih =>
      obtain ⟨-, hsolid⟩ := hsolid.token
      obtain ⟨hnext, hrest⟩ := hsolid.token
      have hlong : Plain (name ++ "-" ++ next).toList :=
        plain_append (plain_append hname plain_dash) hnext
      obtain ⟨hchars, hall⟩ := ih hlong hrest
      exact ⟨by simpa using hchars, hall⟩
  | case2 => exact ⟨rfl, hname, hsolid⟩
  | case3 => exact ⟨rfl, hname, hsolid⟩

theorem takes_named {name : String} (hname : Plain name.toList) (hsolid : SolidCode code) :
    Takes (.token (.word name) code) (named name code).1 (named name code).2 := by
  have hdashed := dashed_chars hname hsolid
  unfold named
  split
  case h_1 heq =>
    rw [heq] at hdashed
    obtain ⟨hchars, hplain, hgroup⟩ := hdashed
    refine ⟨?_, ⟨intact_plain hplain, hgroup.group.1⟩, hgroup.group.2⟩
    simpa [pieceChars, Code.Bracket.openingChar, Code.Bracket.closingChar] using hchars
  case h_2 heq =>
    rw [heq] at hdashed
    obtain ⟨hchars, hplain, hrest⟩ := hdashed
    exact takes_plain (by simpa using hchars) hplain hrest

/-- A colour is written with its digits, whatever tokens they are. -/
theorem takes_color {digits : String} {behind : Code} (h : color digits behind = .ok (found, rest))
    (hchars : codeChars code = '#' :: (digits.toList ++ codeChars behind))
    (hdigits : Plain digits.toList) (hsolid : SolidCode behind) : Takes code found rest := by
  unfold color at h
  split at h
  · cases h
    have hhash : Plain "#".toList := plain_sign (by decide)
    exact takes_plain (by simpa using hchars) (plain_append hhash hdigits) hsolid
  · cases h

theorem takes_colorFrom {digits : String} {behind : Code}
    (h : colorFrom digits behind = .ok (found, rest))
    (hchars : codeChars code = '#' :: (digits.toList ++ codeChars behind))
    (hdigits : Plain digits.toList) (hsolid : SolidCode behind) : Takes code found rest := by
  unfold colorFrom at h
  split at h
  · split at h
    · obtain ⟨hmore, hrest⟩ := hsolid.token
      exact takes_color h (by simpa using hchars) (plain_append hdigits hmore) hrest
    · exact takes_color h hchars hdigits hsolid
  · exact takes_color h hchars hdigits hsolid

theorem takes_colorAfterHash {isJoined : Bool} (h : colorAfterHash code = .ok (found, rest))
    (hsolid : SolidCode code) : Takes (.token (.sign '#' isJoined) code) found rest := by
  unfold colorAfterHash at h
  split at h
  · obtain ⟨hdigits, hrest⟩ := hsolid.token
    split at h
    · exact takes_color h (by simp) hdigits hrest
    · cases h
  · obtain ⟨hdigits, hrest⟩ := hsolid.token
    exact takes_colorFrom h (by simp) hdigits hrest
  · obtain ⟨hdigits, hrest⟩ := hsolid.token.2.token
    exact takes_colorFrom h (by simp) (plain_append plain_dash hdigits) hrest
  · cases h

theorem takes_importance {isJoined : Bool} (h : importance code = .ok (found, rest))
    (hsolid : SolidCode code) : Takes (.token (.sign '!' isJoined) code) found rest := by
  unfold importance at h
  split at h
  · split at h
    · cases h
    · split at h
      case isTrue himportant =>
        cases h
        subst himportant
        exact takes_plain (by simp) (plain_sign (by decide)) hsolid.token.2
      case isFalse => cases h
  · cases h

theorem number?_chars {spelling : String} (h : number? code = some (spelling, rest))
    (hsolid : SolidCode code) :
    codeChars code = spelling.toList ++ codeChars rest ∧ Plain spelling.toList ∧
      SolidCode rest := by
  unfold number? at h
  split at h
  · cases h
    exact ⟨rfl, hsolid.token⟩
  · cases h
    obtain ⟨hnumber, hrest⟩ := hsolid.token.2.token
    exact ⟨by simp, plain_append plain_dash hnumber, hrest⟩
  · cases h

theorem takes_percentage {spelling : String} {behind : Code}
    (hchars : codeChars code = spelling.toList ++ codeChars behind) (hplain : Plain spelling.toList)
    (hsolid : SolidCode behind) :
    Takes code (percentage (spelling, behind)).1 (percentage (spelling, behind)).2 := by
  unfold percentage
  split
  case h_1 heq =>
    obtain ⟨rfl, rfl⟩ := Prod.mk.inj heq
    have hpercent : Plain "%".toList := plain_sign (by decide)
    exact takes_plain (by simpa using hchars) (plain_append hplain hpercent) hsolid.token.2
  case h_2 heq =>
    obtain ⟨rfl, rfl⟩ := Prod.mk.inj heq
    exact takes_plain hchars hplain hsolid

theorem takes_numeric? (h : numeric? code = some (found, rest)) (hsolid : SolidCode code) :
    Takes code found rest := by
  unfold numeric? at h
  split at h
  case h_1 isJoined unsigned =>
    obtain ⟨⟨spelling, behind⟩, hnumber, heq⟩ := Option.map_eq_some_iff.mp h
    obtain ⟨hchars, hplain, hbehind⟩ := number?_chars hnumber hsolid.token.2
    have hlong : Plain ("-" ++ spelling).toList := plain_append plain_dash hplain
    have hsigned : codeChars (.token (.sign '-' isJoined) unsigned) =
        ("-" ++ spelling).toList ++ codeChars behind := by simp [hchars]
    have htakes := takes_percentage hsigned hlong hbehind
    rwa [show percentage ("-" ++ spelling, behind) = (found, rest) from heq] at htakes
  case h_2 =>
    obtain ⟨⟨spelling, behind⟩, hnumber, heq⟩ := Option.map_eq_some_iff.mp h
    obtain ⟨hchars, hplain, hbehind⟩ := number?_chars hnumber hsolid
    have htakes := takes_percentage hchars hplain hbehind
    rwa [heq] at htakes

/-- A value is read off the front of the code. -/
theorem takes_piece (h : piece code = .ok (found, rest)) (hsolid : SolidCode code) :
    Takes code found rest := by
  unfold piece at h
  split at h
  · exact takes_colorAfterHash h hsolid.token.2
  · exact takes_importance h hsolid.token.2
  · cases h
    obtain ⟨hcontents, hrest⟩ := hsolid.token
    refine ⟨?_, ?_, hrest⟩
    · simp [pieceChars, Text.quoted]
    · rw [SolidPiece, Text.quoted, String.toList_ofList]
      exact intact_quoteChars hcontents
  · split at h
    · obtain ⟨hname, hrest⟩ := hsolid.token
      have htakes := takes_named hname hrest
      rwa [Except.ok.inj h] at htakes
    · cases h
  · split at h
    · rename_i hnumeric
      cases h
      exact takes_numeric? hnumeric hsolid
    · cases h

/-! ## Several values -/

/-- The values are written with the characters, whatever stands before them. -/
structure Spells (values : List Value) (text : List Char) : Prop where
  leaves : ∀ isBehind, Leaves (Wording.spelled isBehind values).toList text
  intact : Intact text

theorem Spells.nil : Spells [] [] := by
  refine ⟨fun isBehind => ?_, .nil⟩
  rw [spelled_nil]
  exact .nil

/-- A value in front of others, with or without the space between them. -/
theorem Spells.cons {value : Value} {values : List Value} {first : List Char}
    (hleaves : Leaves value.text.toList first) (hintact : Intact first) (h : Spells values text) :
    Spells (value :: values) (first ++ text) := by
  refine ⟨fun isBehind => ?_, hintact.append h.intact⟩
  have hspace : Leaves (if isBehind && !value.clings then " " else "").toList [] := by
    split
    · exact leaves_blank rfl
    · exact .nil
  rw [Wording.spelled_cons, String.toList_append, String.toList_append]
  exact (hspace.append hleaves).append (h.leaves true)

theorem Spells.comma {values : List Value} (h : Spells values text) :
    Spells (.comma :: values) (',' :: text) := by
  have hcomma : Intact [','] := intact_singleton (by decide) rfl (by decide)
  have hleaves : Leaves Value.comma.text.toList [','] := hcomma.leaves
  exact .cons hleaves hcomma h

theorem Spells.call {name : String} {arguments values : List Value} {inner : List Char}
    (hname : Intact name.toList) (harguments : Spells arguments inner) (h : Spells values text) :
    Spells (.call name arguments :: values) (name.toList ++ '(' :: (inner ++ [')']) ++ text) := by
  have hopening : Intact ['('] := intact_singleton (by decide) rfl (by decide)
  have hclosing : Intact [')'] := intact_singleton (by decide) rfl (by decide)
  have hjoined : Leaves (Value.join arguments).toList inner := harguments.leaves false
  refine .cons ?_ ?_ h
  · have hleaves := ((hname.leaves.append hopening.leaves).append hjoined).append hclosing.leaves
    simpa [Value.call, Value.plain] using hleaves
  · simpa using ((hname.append hopening).append harguments.intact).append hclosing

theorem spells_of_readArguments {values : List Value} (h : readArguments code = .ok values)
    (hsolid : SolidCode code) : Spells values (codeChars code) := by
  fun_induction readArguments code generalizing values with
  | case1 =>
      cases h
      exact .nil
  | case2 rest isJoined ih =>
      obtain ⟨more, hmore, heq⟩ := ok_of_bind h
      cases heq
      simpa using (ih hmore hsolid.token.2).comma
  | case3 => cases h
  | case4 _ _ _ text rest hpiece ih =>
      obtain ⟨hchars, hintact, hrest⟩ := takes_piece hpiece hsolid
      obtain ⟨more, hmore, heq⟩ := ok_of_bind h
      cases heq
      rw [hchars]
      exact .cons hintact.leaves hintact (ih hmore hrest)
  | case5 _ _ _ name inner rest hpiece ihArguments ihRest =>
      obtain ⟨hchars, ⟨hname, hinner⟩, hrest⟩ := takes_piece hpiece hsolid
      obtain ⟨arguments, harguments, hread⟩ := ok_of_bind h
      obtain ⟨more, hmore, heq⟩ := ok_of_bind hread
      cases heq
      rw [hchars]
      exact .call hname (ihArguments harguments hinner) (ihRest hmore hrest)

theorem spells_cons_of_piece {value : Value} {values : List Value}
    (hvalue : found.value = .ok value)
    (hfound : SolidPiece found) (h : Spells values text) :
    Spells (value :: values) (pieceChars found ++ text) := by
  cases found with
  | plain text =>
      cases hvalue
      exact .cons (Intact.leaves hfound) hfound h
  | call name inner =>
      obtain ⟨hname, hinner⟩ := hfound
      cases harguments : readArguments inner with
      | error refusal =>
          rw [Piece.value, harguments] at hvalue
          cases hvalue
      | ok arguments =>
          rw [Piece.value, harguments] at hvalue
          cases hvalue
          exact .call hname (spells_of_readArguments harguments hinner) h

/-- What follows the values of a property. -/
inductive Ended : Code → Prop
  | done : Ended .done
  | semicolon (isJoined : Bool) (rest : Code) : Ended (.token (.sign ';' isJoined) rest)

theorem spells_of_readValues {values : List Value} (h : readValues code = .ok (values, rest))
    (hsolid : SolidCode code) :
    ∃ text, Spells values text ∧ codeChars code = text ++ codeChars rest ∧ Ended rest ∧
      SolidCode rest := by
  fun_induction readValues code generalizing values with
  | case1 =>
      cases h
      exact ⟨[], .nil, rfl, .done, hsolid⟩
  | case2 isJoined behind =>
      cases h
      exact ⟨[], .nil, rfl, .semicolon isJoined behind, hsolid⟩
  | case3 => cases h
  | case4 _ _ _ found behind hpiece ih =>
      obtain ⟨hchars, hfound, hbehind⟩ := takes_piece hpiece hsolid
      obtain ⟨value, hvalue, hread⟩ := ok_of_bind h
      obtain ⟨⟨more, last⟩, hmore, heq⟩ := ok_of_bind hread
      cases heq
      obtain ⟨text, hspells, hlater, hended, hlast⟩ := ih hmore hbehind
      refine
        ⟨pieceChars found ++ text, spells_cons_of_piece hvalue hfound hspells, ?_, hended, hlast⟩
      rw [hchars, hlater, List.append_assoc]

/-! ## Declarations -/

theorem propertyFrom?_chars {name property : String}
    (h : propertyFrom? name code = some (property, rest)) (hname : Plain name.toList)
    (hsolid : SolidCode code) :
    name.toList ++ codeChars code = property.toList ++ codeChars rest ∧ Plain property.toList ∧
      SolidCode rest := by
  fun_induction propertyFrom? name code with
  | case1 name _ next rest _ ih =>
      obtain ⟨hnext, hrest⟩ := hsolid.token.2.token
      have hlong : Plain (name ++ "-" ++ next).toList :=
        plain_append (plain_append hname plain_dash) hnext
      obtain ⟨hchars, hall⟩ := ih h hlong hrest
      exact ⟨by simpa using hchars, hall⟩
  | case2 => cases h
  | case3 => cases h
  | case4 =>
      cases h
      exact ⟨rfl, hname, hsolid⟩

theorem property?_chars {property : String} (h : property? code = some (property, rest))
    (hsolid : SolidCode code) :
    codeChars code = property.toList ++ ':' :: codeChars rest ∧ Plain property.toList ∧
      SolidCode rest := by
  unfold property? at h
  split at h
  · obtain ⟨hname, hbehind⟩ := hsolid.token
    split at h
    · split at h
      · rename_i hproperty
        cases h
        obtain ⟨hchars, hplain, hcolon⟩ := propertyFrom?_chars hproperty hname hbehind
        exact ⟨by simpa using hchars, hplain, hcolon.token.2⟩
      · cases h
    · cases h
  · cases h

/-- The characters are those of declarations, each a name and a value, with semicolons behind them.
-/
inductive Sheeted : List (List Char × List Char) → List Char → Prop
  | done : Sheeted [] []
  | stray {entries : List (List Char × List Char)} {text : List Char} (h : Sheeted entries text) :
      Sheeted entries (';' :: text)
  | last {name value : List Char} (hname : Plain name) (hvalue : Intact value) :
      Sheeted [(name, value)] (name ++ ':' :: value)
  | entry {name value text : List Char} {entries : List (List Char × List Char)}
      (hname : Plain name) (hvalue : Intact value) (h : Sheeted entries text) :
      Sheeted ((name, value) :: entries) (name ++ ':' :: (value ++ ';' :: text))

/-- The declaration has the name, and the value the letters. -/
def Declaration.Has (declaration : Declaration) (entry : List Char × List Char) : Prop :=
  declaration.property.toList = entry.1 ∧ Leaves declaration.value.toList entry.2

/-- The characters of a sheet are those of the declarations that are read. -/
theorem sheeted_of_readDeclarations {declarations : List Declaration}
    (h : readDeclarations code = .ok declarations) (hsolid : SolidCode code) :
    ∃ entries, Sheeted entries (codeChars code) ∧
      List.Forall₂ Declaration.Has declarations entries := by
  fun_induction readDeclarations code generalizing declarations with
  | case1 =>
      cases h
      exact ⟨[], .done, .nil⟩
  | case2 _ rest ih =>
      obtain ⟨entries, hsheeted, hall⟩ := ih h hsolid.token.2
      exact ⟨entries, by simpa using hsheeted.stray, hall⟩
  | case3 => cases h
  | case4 code _ _ declaration rest hread ih =>
      obtain ⟨more, hmore, heq⟩ := ok_of_bind h
      cases heq
      unfold readDeclaration at hread
      split at hread
      · cases hread
      rename_i property behind hproperty
      obtain ⟨hchars, hname, hbehind⟩ := property?_chars hproperty hsolid
      split at hread
      · cases hread
      · cases hread
      rename_i values ending _ hvalues
      cases hread
      obtain ⟨text, hspells, hlater, hended, hending⟩ := spells_of_readValues hvalues hbehind
      have hhas : Declaration.Has ⟨property, values⟩ (property.toList, text) :=
        ⟨rfl, hspells.leaves false⟩
      cases hended with
      | done =>
          rw [show afterSemicolon .done = .done from rfl, readDeclarations] at hmore
          cases hmore
          refine ⟨[_], ?_, .cons hhas .nil⟩
          rw [hchars, hlater, codeChars_done, List.append_nil]
          exact .last hname hspells.intact
      | semicolon isJoined rest =>
          obtain ⟨entries, hsheeted, hall⟩ := ih hmore hending.token.2
          refine ⟨_ :: entries, ?_, .cons hhas hall⟩
          rw [hchars, hlater, codeChars_token, tokenChars_sign]
          exact .entry hname hspells.intact hsheeted

/-! ## Reading the characters -/

theorem eq_of_name_eq {name other value more : List Char} (hname : Plain name)
    (hother : Plain other) (h : name ++ ':' :: value = other ++ ':' :: more) :
    name = other ∧ value = more := by
  have hends {rest : List Char} : Code.Follows Style.separators (':' :: rest) :=
    Code.follows_cons_iff.mpr (by decide)
  obtain ⟨hsame, hrest⟩ := eq_of_append_eq hname hother hends hends h
  exact ⟨hsame, (List.cons.inj hrest).2⟩

/-- Nothing but a semicolon ends a value. -/
theorem eq_of_value_eq {value other rest more : List Char} (hvalue : Intact value)
    (hother : Intact other) (hrest : beforeSemicolon false rest = [])
    (hmore : beforeSemicolon false more = []) (h : value ++ rest = other ++ more) :
    value = other ∧ rest = more := by
  have hbefore := congrArg (beforeSemicolon false) h
  rw [hvalue.before, hother.before, hrest, hmore, List.append_nil, List.append_nil] at hbefore
  subst hbefore
  exact ⟨rfl, List.append_cancel_left h⟩

/-- A name is no semicolon. -/
theorem name_ne_semicolon {name value text : List Char} (hname : Plain name) :
    ';' :: text ≠ name ++ ':' :: value := by
  cases name with
  | nil => simp
  | cons c name =>
      intro h
      obtain ⟨rfl, -⟩ := List.cons.inj h
      exact hname _ List.mem_cons_self (by decide)

/-- The characters of a sheet determine its declarations. -/
theorem Sheeted.unique {entries others : List (List Char × List Char)} (h : Sheeted entries text)
    (hothers : Sheeted others text) : entries = others := by
  induction h generalizing others with
  | done =>
      generalize htext : ([] : List Char) = text at hothers
      cases hothers with
      | done => rfl
      | stray => cases htext
      | last => simp at htext
      | entry => simp at htext
  | @stray entries text h ih =>
      generalize htext : ';' :: text = whole at hothers
      cases hothers with
      | done => cases htext
      | stray hmore =>
          obtain ⟨-, rfl⟩ := List.cons.inj htext
          exact ih hmore
      | last hname => exact absurd htext (name_ne_semicolon hname)
      | entry hname => exact absurd htext (name_ne_semicolon hname)
  | @last name value hname hvalue =>
      generalize htext : name ++ ':' :: value = whole at hothers
      cases hothers with
      | done => simp at htext
      | stray => exact absurd htext.symm (name_ne_semicolon hname)
      | last hother =>
          obtain ⟨rfl, rfl⟩ := eq_of_name_eq hname hother htext
          rfl
      | entry hother hmore =>
          obtain ⟨rfl, hrest⟩ := eq_of_name_eq hname hother htext
          rw [← List.append_nil value] at hrest
          have hends := (eq_of_value_eq hvalue hmore rfl rfl hrest).2
          cases hends
  | @entry name value text entries hname hvalue h ih =>
      generalize htext : name ++ ':' :: (value ++ ';' :: text) = whole at hothers
      cases hothers with
      | done => simp at htext
      | stray => exact absurd htext.symm (name_ne_semicolon hname)
      | @last _ other hother hmore =>
          obtain ⟨rfl, hrest⟩ := eq_of_name_eq hname hother htext
          rw [← List.append_nil other] at hrest
          have hends := (eq_of_value_eq hvalue hmore rfl rfl hrest).2
          cases hends
      | entry hother hmore hlater =>
          obtain ⟨rfl, hrest⟩ := eq_of_name_eq hname hother htext
          obtain ⟨rfl, htail⟩ := eq_of_value_eq hvalue hmore rfl rfl hrest
          obtain ⟨-, rfl⟩ := List.cons.inj htail
          rw [ih hlater]

end Storyboard.Sheet
