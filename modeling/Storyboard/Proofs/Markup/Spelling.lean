import Storyboard.Code.Grammar.Expression
import Storyboard.Code.Phrase
import Storyboard.Proofs.Markup.Proper

/-!
# Markup and its spelling

An element has a spelling as code.  Reading gives every element back from its spelling, and leaves
what follows; and what is read as an element is its spelling.  Only for its expressions there may be
other code in the brackets, as long as the reader of expressions takes it for the same: what counts
as an expression is up to that reader, of which nothing is asked.
-/

namespace Storyboard

namespace Code

/-- The reader takes the first code, all of it, for an expression that keeps the second code. -/
def ExpressionReader.ReadsAs (reader : ExpressionReader) (inner core : Code) : Prop :=
  reader inner = some ⟨core, true, done⟩

/-! ## Spelling up to joined signs -/

/-- The first code spells the second one: which signs are joined does not matter outside brackets,
and in brackets the two differ as it is given. -/
inductive Spells (differ : Code → Code → Prop) : Code → Code → Prop
  | done : Spells differ done done
  | token {rest other : Code} (head : Token) (hrest : Spells differ rest other) :
      Spells differ (token head rest) (token head other)
  | sign {isJoined isOther : Bool} {rest other : Code} (c : Char)
      (hrest : Spells differ rest other) :
      Spells differ (token (.sign c isJoined) rest) (token (.sign c isOther) other)
  | group {inner core rest other : Code} (bracket : Bracket) (hinner : differ inner core)
      (hrest : Spells differ rest other) :
      Spells differ (group bracket inner rest) (group bracket core other)

namespace Spells

variable {differ : Code → Code → Prop} {front first second core rest : Code}

theorem refl (hdiffer : ∀ code, differ code code) (code : Code) : Spells differ code code := by
  induction code with
  | done => exact .done
  | token head rest ih => exact .token head ih
  | group bracket inner rest _ ih => exact .group bracket (hdiffer inner) ih

theorem append {other more : Code} (hfirst : Spells differ first other)
    (hsecond : Spells differ second more) : Spells differ (first ++ second) (other ++ more) := by
  induction hfirst with
  | done => exact hsecond
  | token head _ ih => exact .token head ih
  | sign c _ ih => exact .sign c ih
  | group bracket hinner _ ih => exact .group bracket hinner ih

theorem of_append (h : Spells differ front (first ++ second)) :
    ∃ start behind, front = start ++ behind ∧ Spells differ start first ∧
      Spells differ behind second := by
  induction first generalizing front with
  | done => exact ⟨.done, front, rfl, .done, h⟩
  | token head first ih =>
      cases h with
      | token _ h =>
          obtain ⟨start, behind, rfl, hstart, hbehind⟩ := ih h
          exact ⟨Code.token head start, behind, rfl, .token head hstart, hbehind⟩
      | sign c h =>
          obtain ⟨start, behind, rfl, hstart, hbehind⟩ := ih h
          exact ⟨Code.token (.sign c _) start, behind, rfl, .sign c hstart, hbehind⟩
  | group bracket inner first _ ih =>
      cases h with
      | group _ hinner h =>
          obtain ⟨start, behind, rfl, hstart, hbehind⟩ := ih h
          exact ⟨Code.group bracket _ start, behind, rfl, .group bracket hinner hstart, hbehind⟩

theorem of_sign {c : Char} {isJoined : Bool}
    (h : Spells differ front (Code.token (.sign c isJoined) rest)) :
    ∃ isOther behind, front = Code.token (.sign c isOther) behind ∧ Spells differ behind rest := by
  cases h with
  | token _ h => exact ⟨isJoined, _, rfl, h⟩
  | sign _ h => exact ⟨_, _, rfl, h⟩

theorem of_word {spelling : String} (h : Spells differ front (Code.token (.word spelling) rest)) :
    ∃ behind, front = Code.token (.word spelling) behind ∧ Spells differ behind rest := by
  cases h with
  | token _ h => exact ⟨_, rfl, h⟩

end Spells

end Code

namespace Markup

open Storyboard.Code

/-! ## The spelling of an element -/

/-- The value of an attribute as code: a text, or an expression in curly brackets. -/
def AttributeValue.spelling : AttributeValue → Code
  | .text contents => Code.text contents
  | .expression code _ => braced code

def Attribute.spelling (given : Attribute) : Code :=
  word given.name ++ sign '=' ++ given.value.spelling

/-- The beginning of an opening tag with attributes. -/
def tagSpelling (tag : String) (attributes : List Attribute) : Code :=
  sign '<' ++ word tag ++ concat (attributes.map Attribute.spelling)

/-- A closing tag. -/
def closingSpelling (tag : String) : Code := sign '<' ++ sign '/' ++ word tag ++ sign '>'

mutual

/-- The code of an element. -/
def Element.spelling : Element → Code
  | ⟨tag, attributes, children, isSelfClosing⟩ =>
      tagSpelling tag attributes ++
        if isSelfClosing then sign '/' ++ sign '>'
        else sign '>' ++ (spelling children ++ closingSpelling tag)

/-- The code of elements one after the other. -/
def spelling : List Element → Code
  | [] => done
  | element :: rest => element.spelling ++ spelling rest

end

/-! ## Values that are read from their spelling -/

variable (reader : ExpressionReader) (differ : Code → Code → Prop)

/-- The value is a text, or a whole expression that is found in all code that differs from it as it
is given. -/
def AttributeValue.IsReadable : AttributeValue → Prop
  | .text _ => True
  | .expression code isWhole =>
      isWhole = true ∧ ∀ inner, differ inner code → reader.ReadsAs inner code

/-- What is asked of an element and of all elements inside it, so that it is read from its spelling.
-/
structure Element.IsReadable (element : Element) : Prop where
  isProper : element.IsProper
  values : ∀ given ∈ element.attributes, given.value.IsReadable reader differ

/-! ## Reading what is spelled -/

section

variable {reader differ}
variable {outer : List Open} {tag : String} {root : Element} {code rest front : Code}

theorem reads_value {name : String} {value : AttributeValue} {before : List Attribute}
    (hproper : Attribute.IsProper ⟨name, value⟩) (hvalue : value.IsReadable reader differ)
    (hfront : Spells differ front value.spelling) (isJoined : Bool)
    (h : Reads reader (.inTag outer tag (before ++ [⟨name, value⟩])) code root rest) :
    Reads reader (.inTag outer tag before)
      (.token (.word name) (.token (.sign '=' isJoined) (front ++ code))) root rest := by
  cases value with
  | text contents =>
      obtain _ | ⟨_, ⟨⟩⟩ := hfront
      refine .text hproper.known (fun hclick => ?_) h
      obtain ⟨_, _, hvalue⟩ := hproper.onClick hclick
      cases hvalue
  | expression inner isWhole =>
      obtain _ | _ | _ | ⟨_, hinner, ⟨⟩⟩ := hfront
      obtain ⟨rfl, hread⟩ := hvalue
      exact .expression hproper.known (hread _ hinner) h

/-- Attributes are read from their spelling. -/
theorem reads_attributes {attributes before : List Attribute}
    (hproper : ∀ given ∈ attributes, given.IsProper)
    (hvalues : ∀ given ∈ attributes, given.value.IsReadable reader differ)
    (hfront : Spells differ front (concat (attributes.map Attribute.spelling)))
    (h : Reads reader (.inTag outer tag (before ++ attributes)) code root rest) :
    Reads reader (.inTag outer tag before) (front ++ code) root rest := by
  induction attributes generalizing before front with
  | nil =>
      cases hfront
      simpa using h
  | cons given attributes ih =>
      obtain ⟨start, behind, rfl, hstart, hbehind⟩ := hfront.of_append
      obtain ⟨_, rfl, hsign⟩ := hstart.of_word
      obtain ⟨isJoined, value, rfl, hvalue⟩ := hsign.of_sign
      rw [append_assoc]
      refine reads_value (hproper _ (.head _)) (hvalues _ (.head _)) hvalue isJoined ?_
      refine ih (fun given hgiven => hproper given (.tail _ hgiven))
        (fun given hgiven => hvalues given (.tail _ hgiven)) hbehind ?_
      simpa using h

theorem of_tagSpelling {attributes : List Attribute}
    (h : Spells differ front (tagSpelling tag attributes)) :
    ∃ isJoined given, front = .token (.sign '<' isJoined) (.token (.word tag) given) ∧
      Spells differ given (concat (attributes.map Attribute.spelling)) := by
  obtain ⟨isJoined, _, rfl, hword⟩ := h.of_sign
  obtain ⟨given, rfl, hgiven⟩ := hword.of_word
  exact ⟨isJoined, given, rfl, hgiven⟩

/-- An open element is closed by the spelling of its closing tag. -/
theorem reads_closing {opened : Open} (htag : isName opened.tag = true)
    (hfront : Spells differ front (closingSpelling opened.tag))
    (h : Reads reader (.behind outer opened.close) code root rest) :
    Reads reader (.inside outer opened) (front ++ code) root rest := by
  obtain ⟨_, _, rfl, hslash⟩ := hfront.of_sign
  obtain ⟨_, _, rfl, hword⟩ := hslash.of_sign
  obtain ⟨_, rfl, hlast⟩ := hword.of_word
  obtain ⟨_, _, rfl, ⟨⟩⟩ := hlast.of_sign
  exact .closing htag h

mutual

/-- From the spelling of an element its opening tag is begun, and the rest leads behind the element.
-/
theorem Element.reads : ∀ (element : Element) {front : Code},
    (∀ inner ∈ element.postorder, inner.IsReadable reader differ) →
    Spells differ front element.spelling →
    ∃ isJoined behind, front = .token (.sign '<' isJoined) (.token (.word element.tag) behind) ∧
      ∀ {outer code root rest}, Reads reader (.behind outer element) code root rest →
        Reads reader (.inTag outer element.tag []) (behind ++ code) root rest
  | ⟨tag, attributes, children, isSelfClosing⟩, front, hreadable, hfront => by
      have hself := hreadable _ (Element.mem_postorder _)
      obtain ⟨start, ending, rfl, hstart, hending⟩ := hfront.of_append
      obtain ⟨isJoined, given, rfl, hgiven⟩ := of_tagSpelling hstart
      refine ⟨isJoined, given ++ ending, rfl, fun {outer code root rest} h => ?_⟩
      rw [append_assoc]
      refine reads_attributes hself.isProper.attributes hself.values hgiven ?_
      rw [List.nil_append]
      cases isSelfClosing with
      | true =>
          obtain rfl : children = [] := hself.isProper.childless rfl
          obtain ⟨_, _, rfl, hlast⟩ := Spells.of_sign hending
          obtain ⟨_, _, rfl, ⟨⟩⟩ := hlast.of_sign
          exact .selfClosing h
      | false =>
          obtain ⟨_, _, rfl, hinside⟩ := Spells.of_sign hending
          change Spells _ _ (Markup.spelling children ++ closingSpelling tag) at hinside
          obtain ⟨inside, closing, rfl, hchildren, hclosing⟩ := hinside.of_append
          rw [token_append, append_assoc]
          refine .opening
            (reads_children children (fun inner hinner => hreadable inner ?_) hchildren ?_)
          · exact List.mem_append_left _ hinner
          · exact reads_closing hself.isProper.tag hclosing h

/-- From the spelling of elements they are read as children. -/
theorem reads_children : ∀ (elements : List Element) {front : Code},
    (∀ inner ∈ postorder elements, inner.IsReadable reader differ) →
    Spells differ front (spelling elements) →
    ∀ {outer opened code root rest},
      Reads reader (.inside outer { opened with children := opened.children ++ elements }) code root
        rest →
      Reads reader (.inside outer opened) (front ++ code) root rest
  | [], front, _, hfront, outer, opened, code, root, rest, h => by
      cases hfront
      simpa using h
  | element :: elements, front, hreadable, hfront, outer, opened, code, root, rest, h => by
      obtain ⟨start, behind, rfl, hstart, hbehind⟩ := hfront.of_append
      obtain ⟨isJoined, start, rfl, hreads⟩ := Element.reads element
        (fun inner hinner => hreadable inner (List.mem_append_left _ hinner)) hstart
      rw [append_assoc]
      refine .nested (hreadable element ?_).isProper.tag (hreads (.child ?_))
      · exact List.mem_append_left _ element.mem_postorder
      · refine reads_children elements (fun inner hinner => hreadable inner ?_) hbehind ?_
        · exact List.mem_append_right _ hinner
        · simpa [Open.push] using h

end

end

/-! ## What has been spelled before a position -/

theorem spelling_append (first second : List Element) :
    spelling (first ++ second) = spelling first ++ spelling second := by
  induction first with
  | nil => rfl
  | cons element rest ih => rw [List.cons_append, spelling, spelling, ih, append_assoc]

/-- The code of an open element up to where its closing tag would stand. -/
def Open.spelling (opened : Open) : Code :=
  tagSpelling opened.tag opened.attributes ++ sign '>' ++ Markup.spelling opened.children

theorem spelling_close (opened : Open) :
    opened.close.spelling = opened.spelling ++ closingSpelling opened.tag := by
  simp [Open.close, Element.spelling, Open.spelling, append_assoc]

theorem spelling_push (parent : Open) (element : Element) :
    (parent.push element).spelling = parent.spelling ++ element.spelling := by
  simp [Open.push, Open.spelling, spelling_append, spelling, append_assoc]

theorem tagSpelling_concat (tag : String) (attributes : List Attribute) (given : Attribute) :
    tagSpelling tag (attributes ++ [given]) = tagSpelling tag attributes ++ given.spelling := by
  simp [tagSpelling, append_assoc]

theorem areWhole_append (first second : List Element) :
    areWhole (first ++ second) = (areWhole first && areWhole second) := by
  induction first with
  | nil => rfl
  | cons element rest ih => rw [List.cons_append, areWhole, areWhole, ih, Bool.and_assoc]

theorem isWhole_push (parent : Open) (element : Element) :
    (parent.push element).close.isWhole = (parent.close.isWhole && element.isWhole) := by
  simp [Open.push, Open.close, Element.isWhole, areWhole_append, areWhole, Bool.and_assoc]

/-- The code of open elements, the innermost of which comes first in the list. -/
def openSpelling : List Open → Code
  | [] => done
  | opened :: outer => openSpelling outer ++ opened.spelling

/-- The code in front of a position. -/
def Position.spelling : Position → Code
  | .inTag outer tag attributes => openSpelling outer ++ tagSpelling tag attributes
  | .inside outer opened => openSpelling (opened :: outer)
  | .behind outer element => openSpelling outer ++ element.spelling

/-- Nothing has been left over in the values in front of a position. -/
def Position.isWhole : Position → Bool
  | .inTag outer _ attributes => outer.all (·.close.isWhole) && attributes.all (·.value.isWhole)
  | .inside outer opened => (opened :: outer).all (·.close.isWhole)
  | .behind outer element => outer.all (·.close.isWhole) && element.isWhole

/-- The code from a position up to the rest spells the element from there on, if nothing has been
left over. -/
def Completes (position : Position) (code : Code) (root : Element) (rest : Code) : Prop :=
  ∃ front after, code = front ++ rest ∧ root.spelling = position.spelling ++ after ∧
    (root.isWhole = true → position.isWhole = true ∧ Spells reader.ReadsAs front after)

variable {reader differ}

theorem Completes.step {position next : Position} {code rest : Code} {root : Element}
    (written piece : Code) (h : Completes reader next code root rest)
    (hspelling : next.spelling = position.spelling ++ piece)
    (hwhole : next.isWhole = true →
      position.isWhole = true ∧ Spells reader.ReadsAs written piece) :
    Completes reader position (written ++ code) root rest := by
  obtain ⟨front, after, rfl, hafter, hspells⟩ := h
  refine ⟨written ++ front, piece ++ after, (append_assoc _ _ _).symm, ?_, fun hroot => ?_⟩
  · rw [hafter, hspelling, append_assoc]
  · obtain ⟨hnext, hrest⟩ := hspells hroot
    exact ⟨(hwhole hnext).1, (hwhole hnext).2.append hrest⟩

/-- What is read from a position is spelled by the code that it is read from. -/
theorem Reads.completes {position : Position} {code rest : Code} {root : Element}
    (h : Reads reader position code root rest) : Completes reader position code root rest := by
  induction h with
  | root element rest =>
      exact ⟨done, done, rfl, (append_done _).symm, fun hwhole => ⟨hwhole, .done⟩⟩
  | @child outer parent element _ _ _ _ ih =>
      refine ih.step done done ?_ fun hnext => ?_
      · simp [Position.spelling, openSpelling, spelling_push, append_assoc]
      · simp only [Position.isWhole, List.all_cons, isWhole_push, Bool.and_eq_true] at hnext ⊢
        exact ⟨⟨⟨hnext.1.1, hnext.2⟩, hnext.1.2⟩, .done⟩
  | @selfClosing outer tag attributes _ isJoined isLast _ _ _ ih =>
      refine ih.step (.token (.sign '/' isJoined) (.token (.sign '>' isLast) done))
        (sign '/' ++ sign '>') ?_ fun hnext => ?_
      · simp [Position.spelling, Element.spelling, append_assoc]
      · simp only [Position.isWhole, Element.isWhole, areWhole, Bool.and_true] at hnext
        exact ⟨hnext, .sign '/' (.sign '>' .done)⟩
  | @opening outer tag attributes _ isJoined _ _ _ ih =>
      refine ih.step (.token (.sign '>' isJoined) done) (sign '>') ?_ fun hnext => ?_
      · simp [Position.spelling, openSpelling, Open.spelling, spelling, append_assoc]
      · simp only [Position.isWhole, List.all_cons, Open.close, Element.isWhole, areWhole,
          Bool.and_true, Bool.and_eq_true] at hnext ⊢
        exact ⟨hnext.symm, .sign '>' .done⟩
  | @text outer tag name contents attributes _ isJoined _ _ hname hclick _ ih =>
      refine ih.step
        (.token (.word name) (.token (.sign '=' isJoined) (.token (.text contents) done)))
        (Attribute.spelling ⟨name, .text contents⟩) ?_ fun hnext => ?_
      · simp [Position.spelling, tagSpelling_concat, append_assoc]
      · simp only [Position.isWhole, List.all_append, Bool.and_eq_true] at hnext ⊢
        exact ⟨⟨hnext.1, hnext.2.1⟩, .token _ (.sign '=' (.token _ .done))⟩
  | @expression outer tag name attributes _ isJoined inner _ _ found hname hfound _ ih =>
      refine ih.step
        (.token (.word name) (.token (.sign '=' isJoined) (.group .curly inner done)))
        (Attribute.spelling ⟨name, .expression found.code (found.isWhole && found.behind.isDone)⟩)
        ?_ fun hnext => ?_
      · simp [Position.spelling, tagSpelling_concat, append_assoc]
      · simp only [Position.isWhole, List.all_append, List.all_cons, List.all_nil, Bool.and_true,
          AttributeValue.isWhole, Bool.and_eq_true] at hnext ⊢
        obtain ⟨houter, hattributes, hwhole, hdone⟩ := hnext
        have hread : reader.ReadsAs inner found.code := by
          obtain ⟨code, isWhole, behind⟩ := found
          obtain rfl : isWhole = true := hwhole
          obtain rfl : behind = done := isDone_iff.mp hdone
          exact hfound
        exact ⟨⟨houter, hattributes⟩, .token _ (.sign '=' (.group .curly hread .done))⟩
  | @nested outer opened tag _ isJoined _ _ htag _ ih =>
      refine ih.step (.token (.sign '<' isJoined) (.token (.word tag) done)) (sign '<' ++ word tag)
        ?_ fun hnext => ?_
      · simp [Position.spelling, tagSpelling]
      · simp only [Position.isWhole, List.all_nil, Bool.and_true] at hnext
        exact ⟨hnext, .sign '<' (.token _ .done)⟩
  | @closing outer opened _ isJoined isSecond isLast _ _ htag _ ih =>
      refine ih.step
        (.token (.sign '<' isJoined) (.token (.sign '/' isSecond)
          (.token (.word opened.tag) (.token (.sign '>' isLast) done))))
        (closingSpelling opened.tag) ?_ fun hnext => ?_
      · simp [Position.spelling, openSpelling, spelling_close, append_assoc]
      · simp only [Position.isWhole, List.all_cons, Bool.and_eq_true] at hnext ⊢
        exact ⟨hnext.symm, .sign '<' (.sign '/' (.token _ (.sign '>' .done)))⟩

/-! ## Reading and spelling -/

mutual

theorem Element.isWhole_iff : ∀ (element : Element), element.isWhole = true ↔
    ∀ inner ∈ element.postorder, ∀ given ∈ inner.attributes, given.value.isWhole = true
  | ⟨tag, attributes, children, isSelfClosing⟩ => by
      rw [Element.isWhole, Bool.and_eq_true, List.all_eq_true, areWhole_iff children,
        Element.postorder, List.forall_mem_append, List.forall_mem_singleton]
      exact and_comm

theorem areWhole_iff : ∀ (elements : List Element), areWhole elements = true ↔
    ∀ inner ∈ postorder elements, ∀ given ∈ inner.attributes, given.value.isWhole = true
  | [] => iff_of_true rfl fun inner hinner => absurd hinner List.not_mem_nil
  | element :: rest => by
      rw [areWhole, Bool.and_eq_true, element.isWhole_iff, areWhole_iff rest, postorder,
        List.forall_mem_append]

end

/-- Whole elements that are proper are read from all code that spells them in the way of the
reader. -/
theorem isReadable_of_isWhole {element : Element} (hwhole : element.isWhole = true)
    (hproper : ∀ inner ∈ element.postorder, inner.IsProper) :
    ∀ inner ∈ element.postorder, inner.IsReadable reader reader.ReadsAs := by
  intro inner hinner
  refine ⟨hproper inner hinner, fun given hgiven => ?_⟩
  have hvalue := element.isWhole_iff.mp hwhole inner hinner given hgiven
  obtain ⟨name, value⟩ := given
  cases value with
  | text contents => trivial
  | expression code isWhole => exact ⟨hvalue, fun _ hread => hread⟩

/-- An element is read from code that spells it, whatever follows, which is left. -/
theorem readElement_of_spells {element : Element} {front : Code}
    (hreadable : ∀ inner ∈ element.postorder, inner.IsReadable reader differ)
    (hfront : Spells differ front element.spelling) (rest : Code) :
    readElement reader (front ++ rest) = .ok (element, rest) := by
  obtain ⟨isJoined, behind, rfl, hreads⟩ := element.reads hreadable hfront
  exact readElement_eq_ok_iff.mpr ⟨isJoined, element.tag, behind ++ rest, rfl,
    (hreadable element element.mem_postorder).isProper.tag, hreads (.root element rest)⟩

/-- What is read as an element without leaving anything over in it spells the element. -/
theorem spells_of_readElement {element : Element} {code rest : Code}
    (h : readElement reader code = .ok (element, rest)) (hwhole : element.isWhole = true) :
    ∃ front, code = front ++ rest ∧ Spells reader.ReadsAs front element.spelling := by
  obtain ⟨isJoined, tag, behind, rfl, -, hreads⟩ := readElement_eq_ok_iff.mp h
  obtain ⟨front, after, rfl, hafter, hspells⟩ := hreads.completes
  refine ⟨.token (.sign '<' isJoined) (.token (.word tag) front), rfl, ?_⟩
  rw [hafter]
  exact .sign '<' (.token _ (hspells hwhole).2)

/-- Whatever counts as an expression, an element whose expressions are read as they are is read from
its spelling, whatever follows, which is left.  And an element in which nothing has been left over
is read from just that code which begins with a spelling of it, with code in the brackets that is
read as the expressions, if the element and all elements inside it are proper. -/
theorem readElement_spelling (reader : ExpressionReader) :
    (∀ (element : Element) (front rest : Code),
      (∀ inner ∈ element.postorder, inner.IsReadable reader (· = ·)) →
      Spells (· = ·) front element.spelling →
      readElement reader (front ++ rest) = .ok (element, rest)) ∧
    ∀ (element : Element) (code rest : Code), element.isWhole = true →
      (readElement reader code = .ok (element, rest) ↔
        (∀ inner ∈ element.postorder, inner.IsProper) ∧
          ∃ front, code = front ++ rest ∧ Spells reader.ReadsAs front element.spelling) := by
  refine ⟨fun element front rest hreadable hfront => readElement_of_spells hreadable hfront rest,
    fun element code rest hwhole => ⟨fun h => ?_, ?_⟩⟩
  · exact ⟨by simpa [AreProper] using proper_readElement h, spells_of_readElement h hwhole⟩
  · rintro ⟨hproper, front, rfl, hfront⟩
    exact readElement_of_spells (isReadable_of_isWhole hwhole hproper) hfront rest

/-- An element inside another, with a text and with an expression. -/
def greeting : Element :=
  ⟨"panel", [⟨"id", .text "main"⟩],
    [⟨"button", [⟨"onclick", .expression (word "greet") true⟩], [], true⟩], false⟩

/-- An element with a field inside a field, both of them numbered. -/
def pair : Element :=
  let inner := word "x" ++ sign '.' ++ .token (.number "0") (sign '.' ++ .token (.number "1") done)
  ⟨"a", [⟨"text", .expression inner true⟩], [], true⟩

/-- The element as it may be written, with the numbers of both fields in one. -/
def pairMarkup : Code :=
  sign '<' ++ word "a" ++ word "text" ++ sign '=' ++
    braced (word "x" ++ sign '.' ++ .token (.number "0.1") done) ++ sign '/' ++ sign '>'

theorem readElement_greeting :
    (∀ inner ∈ greeting.postorder, inner.IsReadable expression? (· = ·)) ∧
      readElement expression? (greeting.spelling ++ word "more") = .ok (greeting, word "more") ∧
      (pair.isWhole = true ∧ Spells expression?.ReadsAs pairMarkup pair.spelling) ∧
      readElement expression? (pairMarkup ++ word "more") = .ok (pair, word "more") := by
  have hreadable : ∀ inner ∈ greeting.postorder, inner.IsReadable expression? (· = ·) := by
    intro inner hinner
    simp only [greeting, Element.postorder, postorder, List.append_nil, List.nil_append,
      List.cons_append, List.mem_cons, List.not_mem_nil, or_false] at hinner
    rcases hinner with rfl | rfl
    · refine ⟨⟨by decide +kernel, ?_, fun _ => rfl⟩, ?_⟩
      · rintro given (_ | ⟨_, ⟨⟩⟩)
        exact ⟨by decide +kernel, fun _ => ⟨_, _, rfl⟩⟩
      · rintro given (_ | ⟨_, ⟨⟩⟩)
        refine ⟨rfl, fun code hcode => ?_⟩
        rw [hcode]
        rfl
    · refine ⟨⟨by decide +kernel, ?_, fun hclosing => by cases hclosing⟩, ?_⟩
      · rintro given (_ | ⟨_, ⟨⟩⟩)
        exact ⟨by decide +kernel, fun hclick => absurd hclick (by decide +kernel)⟩
      · rintro given (_ | ⟨_, ⟨⟩⟩)
        trivial
  have hspells : Spells (· = ·) greeting.spelling greeting.spelling := .refl (fun _ => rfl) _
  have hread := (readElement_spelling expression?).1 greeting _ (word "more") hreadable hspells
  have hpair : Spells expression?.ReadsAs pairMarkup pair.spelling :=
    .sign '<' (.token _ (.token _ (.sign '=' (.group .curly rfl (.sign '/' (.sign '>' .done))))))
  have hproper : ∀ inner ∈ pair.postorder, inner.IsProper := by
    rintro inner (_ | ⟨_, ⟨⟩⟩)
    refine ⟨by decide +kernel, ?_, fun _ => rfl⟩
    rintro given (_ | ⟨_, ⟨⟩⟩)
    exact ⟨by decide +kernel, fun _ => ⟨_, _, rfl⟩⟩
  have hreadPair := ((readElement_spelling expression?).2 pair (pairMarkup ++ word "more")
    (word "more") rfl).mpr ⟨hproper, pairMarkup, rfl, hpair⟩
  exact ⟨hreadable, hread, ⟨rfl, hpair⟩, hreadPair⟩

/-- An expression need not be spelled as it is read, and an element is not read from its spelling if
its tag is a reserved word. -/
theorem pairMarkup_respelled :
    (readElement expression? pairMarkup = .ok (pair, done) ∧ pair.isWhole = true ∧
      ¬ Spells (· = ·) pairMarkup pair.spelling) ∧
    readElement expression? (Element.spelling ⟨"for", [], [], true⟩) = .error .malformed := by
  refine ⟨⟨rfl, rfl, fun h => ?_⟩, rfl⟩
  obtain ⟨_, _, hfront, h⟩ := h.of_sign
  cases hfront
  obtain ⟨_, hfront, h⟩ := h.of_word
  cases hfront
  obtain ⟨_, hfront, h⟩ := h.of_word
  cases hfront
  obtain ⟨_, _, hfront, h⟩ := h.of_sign
  cases hfront
  obtain _ | _ | _ | ⟨_, hinner, -⟩ := h
  exact absurd hinner (by decide)

end Markup

end Storyboard
