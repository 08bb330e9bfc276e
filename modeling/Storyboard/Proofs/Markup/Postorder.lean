import Storyboard.Markup.Element

/-!
# Elements in post-order

All elements of markup in one list: what is inside an element stands before it, and otherwise the
order is that of the source.
-/

namespace Storyboard.Markup

mutual

/-- The elements inside an element and, behind them, the element itself. -/
def Element.postorder : Element → List Element
  | ⟨tag, attributes, children, isSelfClosing⟩ =>
      postorder children ++ [⟨tag, attributes, children, isSelfClosing⟩]

/-- The elements of a list with what is inside them, each behind what is inside it. -/
def postorder : List Element → List Element
  | [] => []
  | element :: rest => element.postorder ++ postorder rest

end

theorem postorder_append (first second : List Element) :
    postorder (first ++ second) = postorder first ++ postorder second := by
  induction first with
  | nil => rfl
  | cons element rest ih => rw [List.cons_append, postorder, postorder, ih, List.append_assoc]

@[simp] theorem postorder_singleton (element : Element) :
    postorder [element] = element.postorder := by
  simp [postorder]

theorem Element.postorder_eq (element : Element) :
    element.postorder = Markup.postorder element.children ++ [element] := by
  obtain ⟨tag, attributes, children, isSelfClosing⟩ := element
  rfl

theorem Element.mem_postorder (element : Element) : element ∈ element.postorder := by
  simp [postorder_eq]

end Storyboard.Markup
