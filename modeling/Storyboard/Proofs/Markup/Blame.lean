import Mathlib.Tactic.SplitIfs
import Mathlib.Tactic.ByContra
import Storyboard.Markup.View
import Storyboard.Proofs.Markup.Spelling

/-!
# What expansion refuses

Markup that can be read is refused for one of its elements: a screen without a title, or an element
that has something inside it although its keyword takes no block.  If there are several such
elements, the first one in post-order is blamed.
-/

namespace Storyboard.Markup

open Storyboard.Code

/-! ## A single element -/

/-- A screen has a title or a text, and nothing is inside an element whose keyword takes no block.
-/
structure Element.IsWellFormed (element : Element) : Prop where
  titled : element.tag = "screen" →
    ∃ given ∈ element.attributes, given.name = "title" ∨ given.name = "text"
  childless : element.tag ∈ leafTags → element.children = []

/-- What is wrong with an element itself. -/
inductive Element.HasFault (element : Element) : Fault → Prop
  | untitled (htag : element.tag = "screen")
      (h : ∀ given ∈ element.attributes, given.name ≠ "title" ∧ given.name ≠ "text") :
      HasFault element .titleRequired
  | filled (htag : element.tag ∈ leafTags) (h : element.children ≠ []) :
      HasFault element (.childless element.tag)

/-- The fault of an element itself, if it has one. -/
def Element.fault? (element : Element) : Option Fault :=
  if element.tag = "screen" then
    if element.attributes.any fun given => isTextName given.name then none else some .titleRequired
  else if element.tag ∈ leafTags ∧ element.children ≠ [] then some (.childless element.tag)
  else none

variable {element : Element} {elements : List Element} {fault : Fault}

theorem any_isTextName_iff {attributes : List Attribute} :
    (attributes.any fun given => isTextName given.name) = true ↔
      ∃ given ∈ attributes, given.name = "title" ∨ given.name = "text" := by
  simp [isTextName, or_comm]

theorem screen_not_mem_leafTags : "screen" ∉ leafTags := by decide +kernel

theorem table_not_mem_leafTags : "table" ∉ leafTags := by decide +kernel

theorem Element.fault?_eq_some_iff : element.fault? = some fault ↔ element.HasFault fault := by
  unfold fault?
  constructor
  · intro h
    split at h
    · next htag =>
        split at h
        · cases h
        · next huntitled =>
            cases h
            simp only [any_isTextName_iff, not_exists, not_and, not_or] at huntitled
            exact .untitled htag huntitled
    · split at h
      · next hfilled =>
          cases h
          exact .filled hfilled.1 hfilled.2
      · cases h
  · rintro (⟨htag, h⟩ | ⟨htag, h⟩)
    · rw [if_pos htag, if_neg]
      rw [any_isTextName_iff]
      rintro ⟨given, hgiven, hname⟩
      exact hname.elim (h given hgiven).1 (h given hgiven).2
    · have hscreen : element.tag ≠ "screen" := by
        rintro hscreen
        exact screen_not_mem_leafTags (hscreen ▸ htag)
      rw [if_neg hscreen, if_pos ⟨htag, h⟩]

theorem Element.fault?_eq_none_iff : element.fault? = none ↔ element.IsWellFormed := by
  constructor
  · intro h
    have hnone (fault : Fault) : ¬ element.HasFault fault := fun hfault => by
      rw [fault?_eq_some_iff.mpr hfault] at h
      cases h
    constructor
    · intro htag
      by_contra huntitled
      simp only [not_exists, not_and, not_or] at huntitled
      exact hnone _ (.untitled htag huntitled)
    · intro htag
      by_contra hfilled
      exact hnone _ (.filled htag hfilled)
  · intro h
    cases hfault : element.fault? with
    | none => rfl
    | some fault =>
        cases fault?_eq_some_iff.mp hfault with
        | untitled htag huntitled =>
            obtain ⟨given, hgiven, hname⟩ := h.titled htag
            exact absurd hname (not_or.mpr (huntitled given hgiven))
        | filled htag hfilled => exact absurd (h.childless htag) hfilled

/-- A statement is refused for the fault of its element. -/
theorem statementFor_eq_error_iff (element : Element) {children : Code} :
    statementFor element.tag element.attributes (!element.children.isEmpty) children
      = .error fault ↔
      element.fault? = some fault := by
  unfold statementFor Element.fault?
  split_ifs <;> simp_all [table_not_mem_leafTags]

/-! ## All elements -/

/-- Where nothing is refused, no fault is found. -/
theorem eq_none_of_ok {α : Type} {outcome : Except Fault α} {found : Option Fault} {value : α}
    (h : ∀ {fault}, outcome = .error fault ↔ found = some fault) (hok : outcome = .ok value) :
    found = none := by
  cases found with
  | none => rfl
  | some fault =>
      rw [h.mpr rfl] at hok
      cases hok

mutual

/-- The statement of an element is refused for the first fault in post-order. -/
theorem Element.statement_eq_error_iff : ∀ (element : Element) {fault : Fault},
    element.statement = .error fault ↔ element.postorder.findSome? Element.fault? = some fault
  | ⟨tag, attributes, children, isSelfClosing⟩, fault => by
      rw [Element.statement, Element.postorder, List.findSome?_append, List.findSome?_singleton]
      cases hchildren : statements children with
      | error first =>
          rw [(statements_eq_error_iff children).mp hchildren]
          simp
      | ok block =>
          rw [eq_none_of_ok (statements_eq_error_iff children) hchildren, Option.none_or]
          exact statementFor_eq_error_iff ⟨tag, attributes, children, isSelfClosing⟩

/-- The statements of elements are refused for the first fault in post-order. -/
theorem statements_eq_error_iff : ∀ (elements : List Element) {fault : Fault},
    statements elements = .error fault ↔ (postorder elements).findSome? Element.fault? = some fault
  | [], fault => by simp [statements, postorder]
  | element :: rest, fault => by
      rw [statements, postorder, List.findSome?_append]
      cases hfirst : element.statement with
      | error first =>
          rw [(Element.statement_eq_error_iff element).mp hfirst]
          exact ⟨fun h => by cases h; rfl, fun h => by cases h; rfl⟩
      | ok first =>
          rw [eq_none_of_ok (Element.statement_eq_error_iff element) hfirst, Option.none_or,
            ← statements_eq_error_iff rest]
          cases statements rest with
          | error second => exact ⟨fun h => by cases h; rfl, fun h => by cases h; rfl⟩
          | ok more => exact ⟨fun h => (by cases h), fun h => (by cases h)⟩

end

/-! ## Expansion -/

section

variable {reader : ExpressionReader} {code target first second : Code} {view : View}
  {refusal : Refusal} {isWhole isJoined : Bool}

/-- Code that cannot be read as a view is refused for that. -/
theorem expandCode_of_refusal (h : readView reader code = .error refusal) :
    expandCode reader code = .error refusal := by
  unfold expandCode
  rw [h]

theorem expandCode_of_nil (h : readView reader code = .ok view) (hnil : view.elements = []) :
    expandCode reader code = .error (.fault .noElements) := by
  unfold expandCode
  rw [h]
  simp [View.expansion, hnil]

/-- Markup with elements is refused for the first fault in post-order. -/
theorem expandCode_eq_fault_iff (h : readView reader code = .ok view) (hsome : view.elements ≠ []) :
    expandCode reader code = .error (.fault fault) ↔
      (postorder view.elements).findSome? Element.fault? = some fault := by
  rw [← statements_eq_error_iff]
  unfold expandCode
  rw [h]
  simp only [View.expansion, List.isEmpty_iff, if_neg hsome]
  cases statements view.elements <;> simp [Except.map]

/-- Markup with elements expands if all of them are well-formed. -/
theorem expandCode_ok_iff (h : readView reader code = .ok view) (hsome : view.elements ≠ []) :
    (∃ expanded, expandCode reader code = .ok expanded) ↔
      ∀ inner ∈ postorder view.elements, inner.IsWellFormed := by
  have hnone : (∃ expanded, expandCode reader code = .ok expanded) ↔
      (postorder view.elements).findSome? Element.fault? = none := by
    cases hfound : (postorder view.elements).findSome? Element.fault? with
    | some fault =>
        rw [(expandCode_eq_fault_iff h hsome).mpr hfound]
        simp
    | none =>
        refine iff_of_true ?_ rfl
        cases hstatements : statements view.elements with
        | error fault =>
            rw [statements_eq_error_iff, hfound] at hstatements
            cases hstatements
        | ok body =>
            refine ⟨program view.target body, ?_⟩
            unfold expandCode
            rw [h]
            simp only [View.expansion, List.isEmpty_iff, if_neg hsome, hstatements, Except.map]
  simp only [hnone, List.findSome?_eq_none_iff, Element.fault?_eq_none_iff]

/-- Where elements have been read, what is wrong behind them is found before what is wrong with
them. -/
theorem readView_of_refusal
    (htarget : reader code
      = some ⟨target, isWhole, .token (.sign ',' isJoined) (first ++ second)⟩)
    (hfirst : readElements reader first = .ok elements)
    (hsecond : readElements reader second = .error refusal) :
    readView reader code = .error refusal := by
  unfold readView
  rw [htarget]
  simp only [readElements_append hfirst, hsecond]
  rfl

/-- What is left over in brackets is found before what is wrong with elements. -/
theorem readView_of_left {rest : Code}
    (htarget : reader code = some ⟨target, isWhole, .token (.sign ',' isJoined) rest⟩)
    (hrest : readElements reader rest = .ok elements)
    (hleft : (isWhole && areWhole elements) = false) :
    readView reader code = .error .malformed := by
  unfold readView
  rw [htarget]
  simp only [hrest]
  change (if _ then _ else _) = _
  rw [if_neg (by simp [hleft])]
  rfl

end

/-- Expansion is refused exactly where markup cannot be read, has no elements or has an element with
a fault.  What cannot be read is blamed first, wherever it stands; after that the first element in
post-order that has a fault. -/
theorem expandCode_blame (reader : ExpressionReader) (code : Code) :
    ((∃ expanded, expandCode reader code = .ok expanded) ↔
      ∃ view, readView reader code = .ok view ∧ view.elements ≠ [] ∧
        ∀ inner ∈ postorder view.elements, inner.IsWellFormed) ∧
    (∀ view, readView reader code = .ok view → view.elements = [] →
      expandCode reader code = .error (.fault .noElements)) ∧
    (∀ view before offender after fault, readView reader code = .ok view →
      postorder view.elements = before ++ offender :: after →
      (∀ inner ∈ before, inner.IsWellFormed) → offender.HasFault fault →
      expandCode reader code = .error (.fault fault)) ∧
    (∀ refusal, readView reader code = .error refusal → expandCode reader code = .error refusal) ∧
    (∀ target isWhole isJoined first second elements refusal,
      reader code = some ⟨target, isWhole, .token (.sign ',' isJoined) (first ++ second)⟩ →
      readElements reader first = .ok elements → readElements reader second = .error refusal →
      expandCode reader code = .error refusal) ∧
    ∀ target isWhole isJoined rest elements,
      reader code = some ⟨target, isWhole, .token (.sign ',' isJoined) rest⟩ →
      readElements reader rest = .ok elements → (isWhole && areWhole elements) = false →
      expandCode reader code = .error .malformed := by
  refine ⟨?_, fun view => expandCode_of_nil, ?_, fun refusal => expandCode_of_refusal, ?_, ?_⟩
  · constructor
    · rintro ⟨expanded, hexpanded⟩
      cases hview : readView reader code with
      | error refusal =>
          rw [expandCode_of_refusal hview] at hexpanded
          cases hexpanded
      | ok view =>
          by_cases hnil : view.elements = []
          · rw [expandCode_of_nil hview hnil] at hexpanded
            cases hexpanded
          · exact ⟨view, rfl, hnil, (expandCode_ok_iff hview hnil).mp ⟨expanded, hexpanded⟩⟩
    · rintro ⟨view, hview, hsome, hwellFormed⟩
      exact (expandCode_ok_iff hview hsome).mpr hwellFormed
  · intro view before offender after fault hview hpostorder hbefore hoffender
    have hsome : view.elements ≠ [] := by
      rintro hnil
      simp [hnil, postorder] at hpostorder
    rw [expandCode_eq_fault_iff hview hsome, List.findSome?_eq_some_iff]
    exact ⟨before, offender, after, hpostorder, Element.fault?_eq_some_iff.mpr hoffender,
      fun inner hinner => Element.fault?_eq_none_iff.mpr (hbefore inner hinner)⟩
  · intro target isWhole isJoined first second elements refusal htarget hfirst hsecond
    exact expandCode_of_refusal (readView_of_refusal htarget hfirst hsecond)
  · intro target isWhole isJoined rest elements htarget hrest hleft
    exact expandCode_of_refusal (readView_of_left htarget hrest hleft)

/-- A screen without a title, in which a row that has something inside it comes behind a label. -/
def mistaken : Element :=
  ⟨"screen", [], [⟨"label", [], [], true⟩, ⟨"row", [⟨"id", .text "r"⟩],
    [⟨"panel", [], [], true⟩], false⟩], false⟩

theorem expandCode_mistaken :
    expandCode expression? (word "ws" ++ sign ',' ++ mistaken.spelling)
        = .error (.fault (.childless "row")) ∧
      expandCode expression? (word "ws" ++ sign ',' ++ (mistaken.spelling ++ word "more"))
        = .error .malformed := by
  have hmistaken : readElements expression? mistaken.spelling = .ok [mistaken] := by
    have hread : readElement expression? mistaken.spelling = .ok (mistaken, .done) := rfl
    have helements := readElements_of_readElement hread
    rw [readElements_done] at helements
    exact helements
  have htarget : expression? (word "ws" ++ sign ',' ++ mistaken.spelling) =
      some ⟨word "ws", true, .token (.sign ',' false) mistaken.spelling⟩ := rfl
  have hview : readView expression? (word "ws" ++ sign ',' ++ mistaken.spelling) =
      .ok ⟨word "ws", [mistaken]⟩ := by
    unfold readView
    rw [htarget]
    simp only [hmistaken]
    rfl
  constructor
  · refine (expandCode_blame expression? _).2.2.1 ⟨word "ws", [mistaken]⟩
      [⟨"label", [], [], true⟩, ⟨"panel", [], [], true⟩]
      ⟨"row", [⟨"id", .text "r"⟩], [⟨"panel", [], [], true⟩], false⟩ [mistaken] _ hview rfl ?_
      (.filled (by decide +kernel) (by simp))
    simp only [List.forall_mem_cons, List.not_mem_nil, false_imp_iff, implies_true, and_true]
    exact ⟨⟨by decide +kernel, fun _ => rfl⟩, by decide +kernel, fun _ => rfl⟩
  · exact (expandCode_blame expression? _).2.2.2.2.1 (word "ws") true false mistaken.spelling
      (word "more")
      [mistaken] .malformed rfl hmistaken (readElements_of_error rfl (by decide +kernel))

end Storyboard.Markup
