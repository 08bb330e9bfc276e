import Storyboard.Proofs.Code.Spelling
import Storyboard.Proofs.Style.Lexeme
import Storyboard.Sheet.Declaration

/-!
# How values are written

The values of a sheet are written with few characters of style text that mean something there: a
name, a number, a colour or the mark of importance has none of them (`Bare`), a text has them
between its quotes, and besides there are the commas and the brackets of calls.  `Written` says so
of a list of values, and all values that are read from a text are (`written_of_readDeclarations`).
-/

namespace Storyboard.Sheet

open Storyboard.Code
open Storyboard.Style (Plain)

/-- The text is not empty and has no separator. -/
def Bare (text : String) : Prop := text.toList ≠ [] ∧ Plain text.toList

/-- The text is bare and begins with a character that words begin with. -/
def BareName (text : String) : Prop := startsWord text.toList = true ∧ Plain text.toList

/-- How a value is written that is no call. -/
inductive Spelling : String → Prop
  | bare {text : String} (h : Bare text) : Spelling text
  | quoted (contents : String) : Spelling (Text.quoted contents)

/-- How values are written. -/
inductive Written : List Value → Prop
  | done : Written []
  | plain {text : String} {rest : List Value} (htext : Spelling text) (hrest : Written rest) :
      Written (.plain text :: rest)
  | comma {rest : List Value} (hrest : Written rest) : Written (.comma :: rest)
  | call {name : String} {arguments rest : List Value} (hname : BareName name)
      (harguments : Written arguments) (hrest : Written rest) :
      Written (.call name arguments :: rest)

theorem BareName.bare {name : String} (h : BareName name) : Bare name := by
  refine ⟨fun hnil => ?_, h.2⟩
  have hstarts := h.1
  rw [hnil] at hstarts
  cases hstarts

theorem plain_of_clear {text : List Char} (h : Clear text) : Plain text := by
  have hends : ∀ c ∈ Style.separators, c ∈ numberEnds := List.all_iff_forall_prop.mp (by decide)
  exact fun c hc hseparator => h c hc (hends c hseparator)

theorem plain_append {first second : String} (hfirst : Plain first.toList)
    (hsecond : Plain second.toList) : Plain (first ++ second).toList := by
  rw [String.toList_append]
  exact fun c hc => (List.mem_append.mp hc).elim (hfirst c) (hsecond c)

theorem BareName.append {name more : String} (h : BareName name) (hmore : Plain more.toList) :
    BareName (name ++ more) := by
  obtain ⟨c, tail, hname⟩ := List.exists_cons_of_ne_nil h.bare.1
  refine ⟨?_, ?_⟩
  · have hstarts := h.1
    rw [hname] at hstarts
    rwa [String.toList_append, hname]
  · exact plain_append h.2 hmore

theorem Bare.append {text more : String} (h : Bare text) (hmore : Plain more.toList) :
    Bare (text ++ more) :=
  ⟨by simp [h.1], plain_append h.2 hmore⟩

/-- Whatever a bare text is put behind, if it has no separator. -/
theorem Bare.prepend {text before : String} (h : Bare text) (hbefore : Plain before.toList) :
    Bare (before ++ text) :=
  ⟨by simp [h.1], plain_append hbefore h.2⟩

/-- The signs that become a part of a value. -/
theorem plain_sign {sign : String} (h : sign ∈ ["-", "%", "#", "!important"]) :
    Plain sign.toList := by
  have hall : ∀ sign ∈ ["-", "%", "#", "!important"],
      (sign.toList.all fun c => !Style.separators.contains c) = true := by decide
  intro c hc
  simpa using List.all_eq_true.mp (hall sign h) c hc

theorem plain_dash : Plain "-".toList := plain_sign (by decide)

variable {code rest : Code} {found : Piece}

/-! ## One value -/

/-- What a value is made of is written like one, and the code in its brackets is clear. -/
def Piece.IsSpelled : Piece → Prop
  | plain text => Spelling text
  | call name arguments => BareName name ∧ arguments.IsClear

theorem bareName_of_isClear {name : String} (h : (Token.word name).IsClear) : BareName name :=
  ⟨h.1, plain_of_clear h.2⟩

theorem bare_of_isClear {spelling : String} (h : (Token.number spelling).IsClear) : Bare spelling :=
  ⟨h.1, plain_of_clear h.2⟩

theorem dashed_bareName {name : String} (hname : BareName name) (hclear : code.IsClear) :
    BareName (dashed name code).1 ∧ (dashed name code).2.IsClear := by
  fun_induction dashed name code with
  | case1 name _ next rest _ ih =>
      obtain ⟨-, hnext, hrest⟩ := hclear
      have hdash := hname.append plain_dash
      exact ih (hdash.append (bareName_of_isClear hnext).2) hrest
  | case2 => exact ⟨hname, hclear⟩
  | case3 => exact ⟨hname, hclear⟩

theorem named_isSpelled {name : String} (hname : BareName name) (hclear : code.IsClear) :
    (named name code).1.IsSpelled ∧ (named name code).2.IsClear := by
  have hdashed := dashed_bareName hname hclear
  unfold named
  split
  case h_1 heq =>
    rw [heq] at hdashed
    exact ⟨⟨hdashed.1, hdashed.2.1⟩, hdashed.2.2⟩
  case h_2 heq =>
    rw [heq] at hdashed
    exact ⟨.bare hdashed.1.bare, hdashed.2⟩

theorem color_isSpelled {digits : String} (h : color digits code = .ok (found, rest))
    (hdigits : Plain digits.toList) (hclear : code.IsClear) : found.IsSpelled ∧ rest.IsClear := by
  unfold color at h
  split at h
  · cases h
    have hhash : Bare "#" := ⟨by decide, plain_sign (by decide)⟩
    exact ⟨.bare (hhash.append hdigits), hclear⟩
  · cases h

theorem colorFrom_isSpelled {digits : String} (h : colorFrom digits code = .ok (found, rest))
    (hdigits : Plain digits.toList) (hclear : code.IsClear) : found.IsSpelled ∧ rest.IsClear := by
  unfold colorFrom at h
  split at h
  · split at h
    · have hmore := (bareName_of_isClear hclear.1).2
      exact color_isSpelled h (plain_append hdigits hmore) hclear.2
    · exact color_isSpelled h hdigits hclear
  · exact color_isSpelled h hdigits hclear

theorem colorAfterHash_isSpelled (h : colorAfterHash code = .ok (found, rest))
    (hclear : code.IsClear) : found.IsSpelled ∧ rest.IsClear := by
  unfold colorAfterHash at h
  split at h
  · split at h
    · exact color_isSpelled h (bareName_of_isClear hclear.1).2 hclear.2
    · cases h
  · exact colorFrom_isSpelled h (bare_of_isClear hclear.1).2 hclear.2
  · have hnumber := bare_of_isClear hclear.2.1
    exact colorFrom_isSpelled h (hnumber.prepend plain_dash).2 hclear.2.2
  · cases h

theorem importance_isSpelled (h : importance code = .ok (found, rest)) (hclear : code.IsClear) :
    found.IsSpelled ∧ rest.IsClear := by
  unfold importance at h
  split at h
  · split at h
    · cases h
    · split at h
      · cases h
        exact ⟨.bare ⟨by decide, plain_sign (by decide)⟩, hclear.2⟩
      · cases h
  · cases h

theorem number?_bare {spelling : String} (h : number? code = some (spelling, rest))
    (hclear : code.IsClear) : Bare spelling ∧ rest.IsClear := by
  unfold number? at h
  split at h
  · cases h
    exact ⟨bare_of_isClear hclear.1, hclear.2⟩
  · cases h
    have hnumber := bare_of_isClear hclear.2.1
    exact ⟨hnumber.prepend plain_dash, hclear.2.2⟩
  · cases h

theorem percentage_isSpelled {spelling : String} (h : Bare spelling) (hclear : code.IsClear) :
    (percentage (spelling, code)).1.IsSpelled ∧ (percentage (spelling, code)).2.IsClear := by
  unfold percentage
  split
  case h_1 heq =>
    obtain ⟨rfl, rfl⟩ := Prod.mk.inj heq
    exact ⟨.bare (h.append (plain_sign (by decide))), hclear.2⟩
  case h_2 heq =>
    obtain ⟨rfl, rfl⟩ := Prod.mk.inj heq
    exact ⟨.bare h, hclear⟩

theorem numeric?_isSpelled (h : numeric? code = some (found, rest)) (hclear : code.IsClear) :
    found.IsSpelled ∧ rest.IsClear := by
  unfold numeric? at h
  split at h
  · obtain ⟨⟨spelling, behind⟩, hnumber, heq⟩ := Option.map_eq_some_iff.mp h
    obtain ⟨hbare, hbehind⟩ := number?_bare hnumber hclear.2
    have hpercentage := percentage_isSpelled (hbare.prepend plain_dash) hbehind
    rwa [show percentage ("-" ++ spelling, behind) = (found, rest) from heq] at hpercentage
  · obtain ⟨⟨spelling, behind⟩, hnumber, heq⟩ := Option.map_eq_some_iff.mp h
    obtain ⟨hbare, hbehind⟩ := number?_bare hnumber hclear
    have hpercentage := percentage_isSpelled hbare hbehind
    rwa [heq] at hpercentage

/-- Of clear code a value is written like one. -/
theorem piece_isSpelled (h : piece code = .ok (found, rest)) (hclear : code.IsClear) :
    found.IsSpelled ∧ rest.IsClear := by
  unfold piece at h
  split at h
  · exact colorAfterHash_isSpelled h hclear.2
  · exact importance_isSpelled h hclear.2
  · cases h
    exact ⟨.quoted _, hclear.2⟩
  · split at h
    · have hnamed := named_isSpelled (bareName_of_isClear hclear.1) hclear.2
      rwa [Except.ok.inj h] at hnamed
    · cases h
  · split at h
    · rename_i hnumeric
      cases h
      exact numeric?_isSpelled hnumeric hclear
    · cases h

/-! ## Several values -/

/-- Where one reading after another succeeds, both do. -/
theorem ok_of_bind {ε α β : Type} {first : Except ε α} {next : α → Except ε β} {result : β}
    (h : first.bind next = .ok result) : ∃ found, first = .ok found ∧ next found = .ok result := by
  cases first with
  | error refusal => cases h
  | ok found => exact ⟨found, rfl, h⟩

theorem written_of_readArguments {values : List Value} (h : readArguments code = .ok values)
    (hclear : code.IsClear) : Written values := by
  fun_induction readArguments code generalizing values with
  | case1 =>
      cases h
      exact .done
  | case2 rest _ ih =>
      obtain ⟨more, hmore, heq⟩ := ok_of_bind h
      cases heq
      exact .comma (ih hmore hclear.2)
  | case3 => cases h
  | case4 _ _ _ text rest hpiece ih =>
      obtain ⟨htext, hrest⟩ := piece_isSpelled hpiece hclear
      obtain ⟨more, hmore, heq⟩ := ok_of_bind h
      cases heq
      exact .plain htext (ih hmore hrest)
  | case5 _ _ _ name inner rest hpiece ihArguments ihRest =>
      obtain ⟨⟨hname, hinner⟩, hrest⟩ := piece_isSpelled hpiece hclear
      obtain ⟨arguments, harguments, hread⟩ := ok_of_bind h
      obtain ⟨more, hmore, heq⟩ := ok_of_bind hread
      cases heq
      exact .call hname (ihArguments harguments hinner) (ihRest hmore hrest)

theorem written_cons_of_piece {value : Value} {values : List Value}
    (hvalue : found.value = .ok value)
    (hfound : found.IsSpelled) (hvalues : Written values) : Written (value :: values) := by
  cases found with
  | plain text =>
      cases hvalue
      exact .plain hfound hvalues
  | call name inner =>
      obtain ⟨hname, hinner⟩ := hfound
      cases harguments : readArguments inner with
      | error refusal =>
          rw [Piece.value, harguments] at hvalue
          cases hvalue
      | ok arguments =>
          rw [Piece.value, harguments] at hvalue
          cases hvalue
          exact .call hname (written_of_readArguments harguments hinner) hvalues

theorem written_of_readValues {values : List Value} (h : readValues code = .ok (values, rest))
    (hclear : code.IsClear) : Written values ∧ rest.IsClear := by
  fun_induction readValues code generalizing values with
  | case1 =>
      cases h
      exact ⟨.done, hclear⟩
  | case2 =>
      cases h
      exact ⟨.done, hclear⟩
  | case3 => cases h
  | case4 _ _ _ found behind hpiece ih =>
      obtain ⟨hfound, hbehind⟩ := piece_isSpelled hpiece hclear
      obtain ⟨value, hvalue, hread⟩ := ok_of_bind h
      obtain ⟨⟨more, last⟩, hmore, heq⟩ := ok_of_bind hread
      cases heq
      obtain ⟨hwritten, hlast⟩ := ih hmore hbehind
      exact ⟨written_cons_of_piece hvalue hfound hwritten, hlast⟩

/-! ## Declarations -/

theorem isClear_of_propertyFrom? {name property : String}
    (h : propertyFrom? name code = some (property, rest)) (hclear : code.IsClear) :
    rest.IsClear := by
  fun_induction propertyFrom? name code with
  | case1 name _ next rest _ ih => exact ih h hclear.2.2
  | case2 => cases h
  | case3 => cases h
  | case4 =>
      cases h
      exact hclear

theorem isClear_of_property? {property : String} (h : property? code = some (property, rest))
    (hclear : code.IsClear) : rest.IsClear := by
  unfold property? at h
  split at h
  · split at h
    · split at h
      · rename_i hproperty
        cases h
        exact (isClear_of_propertyFrom? hproperty hclear.2).2
      · cases h
    · cases h
  · cases h

theorem isClear_afterSemicolon (hclear : code.IsClear) : (afterSemicolon code).IsClear := by
  unfold afterSemicolon
  split
  · exact hclear.2
  · exact hclear

/-- A declaration has values, and they are written like ones. -/
theorem written_of_readDeclaration {declaration : Declaration}
    (h : readDeclaration code = .ok (declaration, rest)) (hclear : code.IsClear) :
    (declaration.values ≠ [] ∧ Written declaration.values) ∧ rest.IsClear := by
  unfold readDeclaration at h
  split at h
  · cases h
  · rename_i hproperty
    split at h
    · cases h
    · cases h
    · rename_i hnonempty hvalues
      cases h
      obtain ⟨hwritten, hrest⟩ :=
        written_of_readValues hvalues (isClear_of_property? hproperty hclear)
      exact ⟨⟨fun hnil => hnonempty hnil, hwritten⟩, isClear_afterSemicolon hrest⟩

theorem written_of_readDeclarations {declarations : List Declaration}
    (h : readDeclarations code = .ok declarations) (hclear : code.IsClear) :
    ∀ declaration ∈ declarations, declaration.values ≠ [] ∧ Written declaration.values := by
  fun_induction readDeclarations code generalizing declarations with
  | case1 =>
      cases h
      exact fun _ hmem => absurd hmem List.not_mem_nil
  | case2 _ rest ih => exact ih h hclear.2
  | case3 => cases h
  | case4 _ _ _ declaration rest hread ih =>
      obtain ⟨hwritten, hrest⟩ := written_of_readDeclaration hread hclear
      obtain ⟨more, hmore, heq⟩ := ok_of_bind h
      cases heq
      exact List.forall_mem_cons.mpr ⟨hwritten, ih hmore hrest⟩

end Storyboard.Sheet
