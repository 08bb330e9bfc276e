import Storyboard.Markup.View
import Storyboard.Proofs.Markup.Postorder
import Storyboard.Proofs.Markup.Reading

/-!
# Proper elements

Whatever is read as markup, its tags can be read, its attributes have names that attributes can
have, what is to be done on a click is an expression, and nothing is inside an element of one tag.
-/

namespace Storyboard.Markup

open Storyboard.Code

/-- The name of the attribute is one that attributes can have, and what is to be done on a click is
an expression. -/
structure Attribute.IsProper (given : Attribute) : Prop where
  known : given.name ∈ attributeNames
  onClick : given.name = "onclick" → ∃ code isWhole, given.value = .expression code isWhole

/-- The element has a tag that can be read and proper attributes, and nothing is inside it if it
consists of one tag. -/
structure Element.IsProper (element : Element) : Prop where
  tag : isName element.tag = true
  attributes : ∀ given ∈ element.attributes, given.IsProper
  childless : element.isSelfClosing = true → element.children = []

/-- All elements are proper, and so is what is inside them. -/
def AreProper (elements : List Element) : Prop := ∀ inner ∈ postorder elements, inner.IsProper

theorem AreProper.append {first second : List Element} (hfirst : AreProper first)
    (hsecond : AreProper second) : AreProper (first ++ second) := by
  intro inner hinner
  rw [postorder_append, List.mem_append] at hinner
  exact hinner.elim (hfirst inner) (hsecond inner)

/-! ## While an element is read -/

/-- What has been read of an element is proper. -/
structure Open.IsProper (opened : Open) : Prop where
  tag : isName opened.tag = true
  attributes : ∀ given ∈ opened.attributes, given.IsProper
  children : AreProper opened.children

namespace Open

variable {opened : Open}

theorem IsProper.push (h : opened.IsProper) {child : Element} (hchild : AreProper [child]) :
    (opened.push child).IsProper :=
  ⟨h.tag, h.attributes, h.children.append hchild⟩

/-- What is inside an element is proper, and so is the element itself. -/
theorem IsProper.element (h : opened.IsProper) {isSelfClosing : Bool}
    (hchildless : isSelfClosing = true → opened.children = []) :
    AreProper [⟨opened.tag, opened.attributes, opened.children, isSelfClosing⟩] := by
  intro inner hinner
  rw [postorder_singleton, Element.postorder_eq, List.mem_append, List.mem_singleton] at hinner
  rcases hinner with hinner | rfl
  · exact h.children inner hinner
  · exact ⟨h.tag, h.attributes, hchildless⟩

theorem IsProper.given (h : opened.IsProper) {given : Attribute} (hgiven : given.IsProper) :
    IsProper ⟨opened.tag, opened.attributes ++ [given], opened.children⟩ := by
  refine ⟨h.tag, fun other hother => ?_, h.children⟩
  rcases List.mem_append.mp hother with hold | hnew
  · exact h.attributes other hold
  · rwa [List.mem_singleton.mp hnew]

end Open

/-- What has been read in front of a position is proper. -/
def Position.IsProper : Position → Prop
  | .inTag outer tag attributes => ∀ each ∈ ⟨tag, attributes, []⟩ :: outer, each.IsProper
  | .inside outer opened => ∀ each ∈ opened :: outer, each.IsProper
  | .behind outer element => (∀ each ∈ outer, each.IsProper) ∧ AreProper [element]

variable {reader : ExpressionReader}

/-- What is read is proper. -/
theorem Reads.isProper {position : Position} {code rest : Code} {root : Element}
    (h : Reads reader position code root rest) : position.IsProper → AreProper [root] := by
  induction h with
  | root element rest => exact fun hproper => hproper.2
  | child _ ih =>
      rintro ⟨houter, helement⟩
      obtain ⟨hparent, houter⟩ := List.forall_mem_cons.mp houter
      exact ih (List.forall_mem_cons.mpr ⟨hparent.push helement, houter⟩)
  | selfClosing _ ih =>
      intro hproper
      obtain ⟨hopened, houter⟩ := List.forall_mem_cons.mp hproper
      exact ih ⟨houter, hopened.element fun _ => rfl⟩
  | opening _ ih => exact ih
  | text hname hclick _ ih =>
      intro hproper
      obtain ⟨hopened, houter⟩ := List.forall_mem_cons.mp hproper
      exact ih (List.forall_mem_cons.mpr
        ⟨hopened.given ⟨hname, fun honClick => absurd honClick hclick⟩, houter⟩)
  | expression hname _ _ ih =>
      intro hproper
      obtain ⟨hopened, houter⟩ := List.forall_mem_cons.mp hproper
      exact ih (List.forall_mem_cons.mpr ⟨hopened.given ⟨hname, fun _ => ⟨_, _, rfl⟩⟩, houter⟩)
  | nested htag _ ih =>
      intro hproper
      refine ih (List.forall_mem_cons.mpr ⟨⟨htag, ?_, ?_⟩, hproper⟩)
      · exact fun given hgiven => absurd hgiven List.not_mem_nil
      · exact fun inner hinner => absurd hinner List.not_mem_nil
  | closing _ _ ih =>
      intro hproper
      obtain ⟨hopened, houter⟩ := List.forall_mem_cons.mp hproper
      exact ih ⟨houter, hopened.element fun hclosing => by cases hclosing⟩

/-! ## Elements that have been read -/

theorem proper_readElement {code rest : Code} {element : Element}
    (h : readElement reader code = .ok (element, rest)) : AreProper [element] := by
  obtain ⟨_, tag, _, rfl, htag, hreads⟩ := readElement_eq_ok_iff.mp h
  refine hreads.isProper (List.forall_mem_cons.mpr ⟨⟨htag, ?_, ?_⟩, ?_⟩)
  · exact fun given hgiven => absurd hgiven List.not_mem_nil
  · exact fun inner hinner => absurd hinner List.not_mem_nil
  · exact fun opened hopened => absurd hopened List.not_mem_nil

theorem proper_readElements {code : Code} {elements : List Element}
    (h : readElements reader code = .ok elements) : AreProper elements := by
  induction elements generalizing code with
  | nil => exact fun inner hinner => absurd hinner List.not_mem_nil
  | cons element others ih =>
      obtain ⟨-, ⟨⟩⟩ | ⟨_, rest, _, helement, hothers, ⟨⟩⟩ := readElements_cases h
      exact (proper_readElement helement).append (ih hothers)

theorem proper_readView {code : Code} {view : View} (h : readView reader code = .ok view) :
    AreProper view.elements := by
  unfold readView at h
  split at h
  · next rest _ =>
      cases helements : readElements reader rest with
      | error refusal =>
          rw [helements] at h
          cases h
      | ok elements =>
          rw [helements] at h
          change (if _ then _ else _) = _ at h
          split at h
          · cases h
            exact proper_readElements helements
          · cases h
  · cases h

end Storyboard.Markup
