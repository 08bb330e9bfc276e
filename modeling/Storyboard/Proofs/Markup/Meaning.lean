import Storyboard.Proofs.Markup.Arguments
import Storyboard.Proofs.Markup.Proper
import Storyboard.Proofs.Session.Acts

/-!
# What a view means

A view expands to code that is a procedure, and the procedure does what a walk of the markup does.

The code of an element is one statement, whatever stands behind it (`statement?_statementFor`), and
the code of its children is that of a block.  So the induction is over the elements: the code of
some elements and the end of a block are read as statements that do what the walk of the elements
does (`exists_statements`).  The session that the view is for is an expression of any kind, and what
stands behind it is found from the end.
-/

namespace Storyboard.Markup

open Storyboard.Code

/-! ## Calls -/

theorem phrase_ok : phrase "Ok(())" = (word "Ok" ++ parenthesized unit).loosened := by
  decide +kernel

theorem phrase_block :
    phrase ", |__ws: &mut ::workstation::Workstation| -> ::workstation::Result<()>"
      = (sign ',' ++ sign '|' ++ sessionBinding ++ sign '|' ++ resultType).loosened := by
  decide +kernel

/-- What the statement of an element declares. -/
def subjectOf (tag : String) : Subject :=
  if tag = "screen" then .screen else .widget (.ofName tag)

section Calls

variable {attributes : List Attribute} (h : ∀ given ∈ attributes, given.Plain)
include h

theorem plainCall?_argument (subject : Subject) :
    plainCall? subject (argument attributes).loosened
      = some ⟨subject, givenOf attributes, none⟩ := by
  have hgiven := given?_argument h done trivial
  rw [append_done] at hgiven
  rw [plainCall?, hgiven]

theorem blockCall?_argument (subject : Subject) (children : Code) :
    blockCall? subject (argument attributes ++ sign ',' ++ sessionBlock children).loosened
      = some ⟨subject, givenOf attributes,
          some (children ++ word "Ok" ++ parenthesized unit).loosened⟩ := by
  have hblock : argument attributes ++ sign ',' ++ sessionBlock children
      = argument attributes
        ++ ((sign ',' ++ sign '|' ++ sessionBinding ++ sign '|' ++ resultType)
          ++ block children) := by
    simp only [sessionBlock, append_assoc]
  have hgiven := given?_argument h ((sign ',' ++ sign '|' ++ sessionBinding ++ sign '|'
    ++ resultType).loosened ++ (block children).loosened) rfl
  rw [hblock, loosened_append, loosened_append, blockCall?, hgiven, phrase_block]
  simp only [Option.bind_eq_bind, Option.bind_some, behind_append]
  rfl

end Calls

/-- The statement that calls a keyword. -/
theorem statement?_statement (keyword : String) (arguments rest : Code) :
    statement? ((statement keyword arguments).loosened ++ rest)
      = (call? keyword arguments.loosened).map (·, rest) := by
  have hend : signs "?;" = token (.sign '?' true) (token (.sign ';' false) done) := by
    decide +kernel
  unfold statement
  rw [hend]
  rfl

/-- The block of the statement of an element, if it has children. -/
def bodyOf (hasChildren : Bool) (children : Code) : Option Code :=
  if hasChildren then some (children ++ word "Ok" ++ parenthesized unit).loosened else none

/-- The statement of an element calls the keyword of its tag. -/
theorem exists_call {tag : String} {attributes : List Attribute} {hasChildren : Bool}
    {children code : Code} (h : ∀ given ∈ attributes, given.Plain)
    (hcode : statementFor tag attributes hasChildren children = .ok code) :
    ∃ keyword arguments, code = statement keyword arguments ∧
      call? keyword arguments.loosened
        = some ⟨subjectOf tag, givenOf attributes, bodyOf hasChildren children⟩ := by
  have hplain := plainCall?_argument h
  have hblock := blockCall?_argument h
  unfold statementFor at hcode
  dsimp only at hcode
  split at hcode
  · next htag =>
      subst htag
      split at hcode
      · cases hcode
      · cases hasChildren with
        | false =>
            cases hcode
            exact ⟨_, _, rfl, hplain .screen⟩
        | true =>
            cases hcode
            exact ⟨_, _, rfl, hblock .screen children⟩
  next hscreen =>
  -- what is declared from here on is a widget
  have hsubject : subjectOf tag = .widget (.ofName tag) := if_neg hscreen
  rw [hsubject]
  split at hcode
  · next htag =>
      subst htag
      cases hasChildren with
      | false =>
          cases hcode
          exact ⟨_, _, rfl, hplain (.widget .table)⟩
      | true =>
          cases hcode
          exact ⟨_, _, rfl, hblock (.widget .table) children⟩
  split at hcode
  · next hleaf =>
      cases hasChildren with
      | true => cases hcode
      | false =>
          cases hcode
          have htags : tag = "label" ∨ tag = "textbox" ∨ tag = "passwordfield" ∨ tag = "button"
              ∨ tag = "row" := by simpa [leafTags] using hleaf
          rcases htags with rfl | rfl | rfl | rfl | rfl <;> exact ⟨_, _, rfl, hplain _⟩
  · cases hasChildren with
    | false =>
        cases hcode
        exact ⟨_, _, rfl, hplain _⟩
    | true =>
        cases hcode
        exact ⟨_, _, rfl, hblock _ children⟩

/-- The statement of an element is read off its code, whatever stands behind it. -/
theorem statement?_statementFor {tag : String} {attributes : List Attribute} {hasChildren : Bool}
    {children code : Code} (h : ∀ given ∈ attributes, given.Plain)
    (hcode : statementFor tag attributes hasChildren children = .ok code) (rest : Code) :
    statement? (code.loosened ++ rest)
      = some (⟨subjectOf tag, givenOf attributes, bodyOf hasChildren children⟩, rest) := by
  obtain ⟨keyword, arguments, rfl, hcall⟩ := exists_call h hcode
  rw [statement?_statement, hcall]
  rfl

/-! ## Elements -/

/-- Code that begins with a statement is no end of a block. -/
theorem ne_phrase_ok {code rest : Code} {call : Call} (h : statement? code = some (call, rest)) :
    code ≠ phrase "Ok(())" := by
  rintro rfl
  rw [phrase_ok] at h
  cases h

theorem statements?_plain {code rest : Code} {subject : Subject} {given : Given}
    (h : statement? code = some (⟨subject, given, none⟩, rest)) :
    statements? code = (statements? rest).map (.plain subject given :: ·) := by
  rw [statements?, if_neg (ne_phrase_ok h)]
  split
  · next hother =>
      rw [h] at hother
      cases hother
  · next hsame =>
      rw [h] at hsame
      cases hsame
      rfl
  · next hother =>
      rw [h] at hother
      cases hother

theorem statements?_withBlock {code rest body : Code} {subject : Subject} {given : Given}
    {block : List Statement} (h : statement? code = some (⟨subject, given, some body⟩, rest))
    (hbody : statements? body = some block) :
    statements? code = (statements? rest).map (.withBlock subject given block :: ·) := by
  rw [statements?, if_neg (ne_phrase_ok h)]
  split
  · next hother =>
      rw [h] at hother
      cases hother
  · next hother =>
      rw [h] at hother
      cases hother
  · next hsame =>
      rw [h] at hsame
      cases hsame
      rw [hbody]
      change (statements? rest).bind _ = _
      cases statements? rest with
      | none => rfl
      | some more => rfl

theorem declare_subjectOf (tag : String) : (subjectOf tag).declare = declare tag := by
  funext args
  unfold subjectOf declare
  split <;> rfl

theorem declareWith_subjectOf (tag : String) : (subjectOf tag).declareWith = declareWith tag := by
  funext args body
  unfold subjectOf declareWith
  split <;> rfl

/-- Attributes with texts that are read are plain. -/
theorem plain_of_literal {attributes : List Attribute}
    (hliteral : attributes.all (·.contents?.isSome) = true)
    (hproper : ∀ given ∈ attributes, given.IsProper) : ∀ given ∈ attributes, given.Plain := by
  intro given hgiven
  refine ⟨(hproper given hgiven).known, ?_⟩
  have hcontents := List.all_eq_true.mp hliteral given hgiven
  obtain ⟨name, value⟩ := given
  cases value with
  | text contents => exact ⟨contents, rfl⟩
  | expression code isWhole => cases hcontents

mutual

/-- The code of an element is read as a statement that does what the walk of the element does. -/
theorem Element.exists_statement : ∀ (element : Element) {code : Code},
    element.isLiteral = true → (∀ inner ∈ element.postorder, inner.IsProper) →
    element.statement = .ok code →
    ∃ statement : Statement, statement.act = element.walk ∧
      ∀ rest : Code, statements? (code.loosened ++ rest) = (statements? rest).map (statement :: ·)
  | ⟨tag, attributes, children, isSelfClosing⟩, code, hliteral, hproper, hcode => by
      obtain ⟨hliteral, hchildren⟩ := Bool.and_eq_true_iff.mp hliteral
      have hplain := plain_of_literal hliteral (hproper _ (Element.mem_postorder _)).attributes
      have hothers : AreProper children := fun inner hinner =>
        hproper inner (List.mem_append_left _ hinner)
      rw [Element.statement] at hcode
      cases hblock : statements children with
      | error fault =>
          rw [hblock] at hcode
          cases hcode
      | ok block =>
          rw [hblock] at hcode
          have hstatement := statement?_statementFor hplain hcode
          have hargs := evaluate_givenOf hplain
          cases hempty : children.isEmpty with
          | true =>
              rw [hempty] at hstatement
              refine ⟨.plain (subjectOf tag) (givenOf attributes), ?_,
                fun rest => statements?_plain (hstatement rest)⟩
              rw [Statement.act, Element.walk, hargs, declare_subjectOf, hempty]
              rfl
          | false =>
              rw [hempty] at hstatement
              obtain ⟨procedure, hact, hprocedure⟩ :=
                exists_statements children hchildren hothers hblock
              refine ⟨.withBlock (subjectOf tag) (givenOf attributes) procedure, ?_,
                fun rest => statements?_withBlock (hstatement rest) hprocedure⟩
              rw [Statement.act, Element.walk, hargs, declareWith_subjectOf, hempty, hact]
              rfl

/-- The code of elements, as it stands in a block, is read as statements that do what the walk of
the elements does. -/
theorem exists_statements : ∀ (elements : List Element) {code : Code},
    areLiteral elements = true → AreProper elements → statements elements = .ok code →
    ∃ procedure, actAll procedure = walkAll elements ∧
      statements? (code ++ word "Ok" ++ parenthesized unit).loosened = some procedure
  | [], code, _, _, hcode => by
      cases hcode
      refine ⟨[], rfl, ?_⟩
      rw [statements?, if_pos]
      exact phrase_ok.symm
  | element :: rest, code, hliteral, hproper, hcode => by
      rw [statements] at hcode
      cases hfirst : element.statement with
      | error fault =>
          rw [hfirst] at hcode
          cases hcode
      | ok first =>
          cases hmore : statements rest with
          | error fault =>
              rw [hfirst, hmore] at hcode
              cases hcode
          | ok more =>
              rw [hfirst, hmore] at hcode
              cases hcode
              obtain ⟨hthis, hothers⟩ := Bool.and_eq_true_iff.mp hliteral
              obtain ⟨statement, hact, hstatement⟩ :=
                element.exists_statement hthis
                  (fun inner hinner => hproper inner (List.mem_append_left _ hinner)) hfirst
              obtain ⟨procedure, hacts, hprocedure⟩ :=
                exists_statements rest hothers
                  (fun inner hinner => hproper inner (List.mem_append_right _ hinner)) hmore
              refine ⟨statement :: procedure, ?_, ?_⟩
              · rw [actAll, walkAll, hact, hacts]
              · rw [append_assoc, append_assoc, loosened_append, hstatement, ← append_assoc,
                  hprocedure]
                rfl

end

/-! ## Programs -/

theorem phrase_let : phrase "let __ws: &mut ::workstation::Workstation ="
    = (word "let" ++ sessionBinding ++ sign '=').loosened := by decide +kernel

theorem phrase_closure : phrase "|| -> ::workstation::Result<()>"
    = (signs "||" ++ resultType).loosened := by decide +kernel

/-- The end of a block that calls a closure. -/
def callOf (closure : Code) : Code :=
  token (.sign ';' false) (group .round closure (group .round done done))

/-- Whatever stands before it, the closure that is called in the end is found. -/
theorem calledLast?_append (target closure : Code) :
    calledLast? (target ++ callOf closure) = some closure := by
  induction target with
  | done => rfl
  | group bracket inner rest _ ih => exact ih
  | token head rest ih =>
      rw [token_append, calledLast?.eq_def]
      split
      · next found hsame =>
          -- the call cannot begin before its end
          obtain ⟨-, hrest⟩ := Code.token.inj hsame
          cases rest with
          | done => cases hrest
          | token => cases hrest
          | group bracket inner more =>
              obtain ⟨-, -, hmore⟩ := Code.group.inj hrest
              cases more with
              | done => cases hmore
              | token => cases hmore
              | group bracket inner last =>
                  obtain ⟨-, -, hlast⟩ := Code.group.inj hmore
                  cases last <;> cases hlast
      · next hsame =>
          cases hsame
          exact ih
      · next hsame => cases hsame
      · next hsame => cases hsame

theorem procedureOf?_program (target body : Code) :
    procedureOf? (program target body).loosened
      = statements? (body ++ word "Ok" ++ parenthesized unit).loosened := by
  -- the binding, whatever the session is, and the call of the closure
  have hcode : (program target body).loosened
      = braced ((word "let" ++ sessionBinding ++ sign '=').loosened ++ (target.loosened
          ++ callOf ((signs "||" ++ resultType).loosened ++ (block body).loosened))) := by
    change braced (Code.loosened _) = _
    simp only [loosened_append, append_assoc]
    rfl
  rw [hcode]
  change ((phrase "let __ws: &mut ::workstation::Workstation =").behind _).bind _ = _
  rw [← phrase_let, behind_append]
  change (calledLast? _).bind _ = _
  rw [calledLast?_append, Option.bind_some, phrase_closure, behind_append]
  rfl

variable {reader : ExpressionReader}

/-- Code that expands is a view whose elements have statements. -/
theorem exists_view {source code : Code} (h : expandCode reader source = .ok code) :
    ∃ view body, readView reader source = .ok view ∧ statements view.elements = .ok body ∧
      code = program view.target body := by
  unfold expandCode at h
  cases hview : readView reader source with
  | error refusal =>
      rw [hview] at h
      cases h
  | ok view =>
      rw [hview] at h
      dsimp only at h
      split at h
      · cases h
      · next hexpansion =>
          cases h
          unfold View.expansion at hexpansion
          split at hexpansion
          · cases hexpansion
          · cases hbody : statements view.elements with
            | error fault =>
                rw [hbody] at hexpansion
                cases hexpansion
            | ok body =>
                rw [hbody] at hexpansion
                cases hexpansion
                exact ⟨view, body, rfl, hbody, rfl⟩

/-- A view whose attributes all have texts expands to code that is a procedure, and in every session
the procedure does what the walk of the markup does: it ends in the same way and leaves the same
session. -/
theorem expand_meaning {input : String} {code : Code} (h : expandWith reader input = .ok code) :
    ∃ view, readAs (readView reader) input = .ok view ∧
      (areLiteral view.elements = true → ∃ procedure, procedure? code.lexemes = some procedure ∧
        ∀ world, (actAll procedure).exec world = (walkAll view.elements).exec world) := by
  unfold expandWith readAs at h
  unfold readAs
  cases hread : read? input with
  | none =>
      rw [hread] at h
      cases h
  | some source =>
      rw [hread] at h
      obtain ⟨view, body, hview, hbody, rfl⟩ := exists_view h
      refine ⟨view, hview, fun hliteral => ?_⟩
      obtain ⟨procedure, hact, hprocedure⟩ :=
        exists_statements view.elements hliteral (proper_readView hview) hbody
      refine ⟨procedure, ?_, fun world => by rw [hact]⟩
      rw [procedure?, assemble?_lexemes]
      change procedureOf? (program view.target body).loosened = some procedure
      rw [procedureOf?_program, hprocedure]

/-- A view with a block inside a block, in which a style does not parse. -/
def formView : String :=
  "ws, <screen title=\"Form\"><table><row id=\"a\" text=\"One\" title=\"Two\"/></table>"
    ++ "<panel text=\"Side\" style=\"width\"/></screen>"

theorem meaning_formView :
    ∃ code view, expandWith expression? formView = .ok code ∧
      readAs (readView expression?) formView = .ok view ∧
      ∃ procedure, procedure? code.lexemes = some procedure ∧
        ∀ world, (actAll procedure).exec world = (walkAll view.elements).exec world := by
  have hexpands : (expandWith expression? formView).toOption.isSome = true := by decide +kernel
  have hliteral :
      (readAs (readView expression?) formView).toOption.all (areLiteral ·.elements) = true := by
    decide +kernel
  cases hcode : expandWith expression? formView with
  | error refusal =>
      rw [hcode] at hexpands
      cases hexpands
  | ok code =>
      obtain ⟨view, hview, hmeaning⟩ := expand_meaning hcode
      rw [hview] at hliteral
      exact ⟨code, view, rfl, hview, hmeaning hliteral⟩

end Storyboard.Markup
