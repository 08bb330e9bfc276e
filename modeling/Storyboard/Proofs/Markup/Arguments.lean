import Storyboard.Markup.View
import Storyboard.Proofs.Markup.Procedure
import Storyboard.Proofs.Markup.Walk

/-!
# What keywords are given in a view

The code of what a keyword is given in a view is read back as the settings that the attributes stand
for (`given?_argument`), and to evaluate these settings one after the other is to look for the last
of each kind among the attributes (`evaluate_givenOf`).
-/

namespace Storyboard.Markup

open Storyboard.Code

/-- An attribute that an element can have, with a text. -/
structure Attribute.Plain (given : Attribute) : Prop where
  name_mem : given.name ∈ attributeNames
  value_eq : ∃ contents, given.value = .text contents

theorem eq_of_mem_attributeNames {name : String} (h : name ∈ attributeNames) :
    name = "id" ∨ name = "text" ∨ name = "title" ∨ name = "style" ∨ name = "onclick" := by
  simpa [attributeNames] using h

/-- What an attribute with a text adds to a set of attributes. -/
def Attribute.setting? (given : Attribute) : Option Setting :=
  given.contents?.bind fun contents =>
    if given.name = "style" then some (.style contents)
    else if given.name = "id" then some (.id contents)
    else if textNames.contains given.name then some (.text contents)
    else none

/-- What attributes with texts stand for. -/
def givenOf (attributes : List Attribute) : Given :=
  if attributes.isEmpty then .unit
  else
    match loneText? attributes with
    | some contents => .text contents
    | none => .settings (attributes.filterMap Attribute.setting?)

/-! ## Phrases of a view -/

theorem phrase_new : phrase "::workstation::Attributes::new()"
    = (path ["workstation", "Attributes", "new"] ++ unit).loosened := by decide +kernel

/-- A path begins with a sign. -/
theorem loosened_path (name : String) (names : List String) :
    (path (name :: names)).loosened
      = token (.sign ':' false) (token (.sign ':' false)
          (token (.word name) (path names).loosened)) := by
  have hcolons : signs "::" = token (.sign ':' true) (token (.sign ':' false) done) := by
    decide +kernel
  have hpath : path (name :: names) = signs "::" ++ word name ++ path names := rfl
  rw [hpath, hcolons]
  rfl

theorem phrase_parse : phrase "::workstation::Style::parse"
    = (path ["workstation", "Style", "parse"]).loosened := by decide +kernel

/-! ## Settings -/

theorem setting?_style (contents : String) :
    setting? "with_style"
        (path ["workstation", "Style", "parse"] ++ parenthesized (text contents)
          ++ sign '?').loosened
      = some (.style contents) := by
  unfold setting?
  rw [if_pos rfl, append_assoc, loosened_append, ← phrase_parse, behind_append]
  rfl

theorem setting?_id (contents : String) :
    setting? "with_id" (text contents).loosened = some (.id contents) := rfl

theorem setting?_text (contents : String) :
    setting? "with_text" (text contents).loosened = some (.text contents) := rfl

/-- A call of a method is the first setting. -/
theorem settings?_method {name : String} {argument rest : Code} {setting : Setting}
    (h : setting? name argument.loosened = some setting) :
    settings? ((method name argument).loosened ++ rest)
      = (settings? rest).map fun read => (setting :: read.1, read.2) := by
  change settings? (.token (.sign '.' false) (.token (.word name)
    (.group .round argument.loosened rest))) = _
  rw [settings?, h]
  cases settings? rest with
  | none => rfl
  | some read => rfl

theorem settings?_addition {given : Attribute} (h : given.Plain) (rest : Code) :
    settings? (given.addition.loosened ++ rest)
      = (settings? rest).map fun read => (given.setting?.toList ++ read.1, read.2) := by
  obtain ⟨name, value⟩ := given
  obtain ⟨contents, rfl⟩ := h.value_eq
  rcases eq_of_mem_attributeNames h.name_mem with rfl | rfl | rfl | rfl | rfl
  · exact settings?_method (setting?_id contents)
  · exact settings?_method (setting?_text contents)
  · exact settings?_method (setting?_text contents)
  · exact settings?_method (setting?_style contents)
  · -- such a text is left out
    change settings? rest = (settings? rest).map fun read => ([] ++ read.1, read.2)
    cases settings? rest with
    | none => rfl
    | some read => rfl

/-- Behind the settings there is code that calls no method. -/
def EndsSettings : Code → Prop
  | .token head _ => head = .sign ',' false
  | .group _ _ _ => False
  | .done => True

theorem settings?_of_endsSettings {rest : Code} (h : EndsSettings rest) :
    settings? rest = some ([], rest) := by
  cases rest with
  | done => rfl
  | group => cases h
  | token head rest =>
      obtain rfl : head = .sign ',' false := h
      rfl

theorem settings?_additions {attributes : List Attribute} (h : ∀ given ∈ attributes, given.Plain)
    {rest : Code} (hrest : EndsSettings rest) :
    settings? ((concat (attributes.map Attribute.addition)).loosened ++ rest)
      = some (attributes.filterMap Attribute.setting?, rest) := by
  induction attributes with
  | nil => exact settings?_of_endsSettings hrest
  | cons given others ih =>
      obtain ⟨hgiven, hothers⟩ := List.forall_mem_cons.mp h
      have hconcat : concat ((given :: others).map Attribute.addition)
          = given.addition ++ concat (others.map Attribute.addition) := rfl
      rw [hconcat, loosened_append, append_assoc, settings?_addition hgiven, ih hothers,
        List.filterMap_cons]
      cases given.setting? with
      | none => rfl
      | some setting => rfl

/-! ## What a keyword is given -/

/-- Behind an empty set of attributes stand settings. -/
theorem given?_of_behind {code rest : Code}
    (h : (phrase "::workstation::Attributes::new()").behind code = some rest) :
    given? code = (settings? rest).map fun read => (.settings read.1, read.2) := by
  unfold given?
  split
  · rw [phrase_new, loosened_append, loosened_path] at h
    cases h
  · rw [phrase_new, loosened_append, loosened_path] at h
    cases h
  · rw [h]
    change (settings? rest).bind _ = _
    cases settings? rest with
    | none => rfl
    | some read => rfl

theorem given?_attributeChain {attributes : List Attribute}
    (h : ∀ given ∈ attributes, given.Plain) {rest : Code} (hrest : EndsSettings rest) :
    given? ((attributeChain attributes).loosened ++ rest)
      = some (.settings (attributes.filterMap Attribute.setting?), rest) := by
  unfold attributeChain
  rw [loosened_append, append_assoc, ← phrase_new, given?_of_behind (behind_append _ _),
    settings?_additions h hrest]
  rfl

theorem given?_argument {attributes : List Attribute} (h : ∀ given ∈ attributes, given.Plain)
    (rest : Code) (hrest : EndsSettings rest) :
    given? ((argument attributes).loosened ++ rest) = some (givenOf attributes, rest) := by
  have hchain := given?_attributeChain h hrest
  match attributes, h with
  | [], _ => rfl
  | first :: second :: others, _ => exact hchain
  | [⟨name, value⟩], h =>
      obtain ⟨contents, rfl⟩ := (h _ (List.mem_singleton_self _)).value_eq
      have hnames : isTextName name = textNames.contains name := by
        simp [isTextName, textNames, Bool.beq_eq_decide_eq]
      unfold argument givenOf loneText?
      rw [List.isEmpty_cons, if_neg Bool.false_ne_true]
      dsimp only
      rw [hnames]
      split
      · rfl
      · exact hchain

/-! ## Evaluation -/

namespace Setting

def id? : Setting → Option String
  | .id contents => some contents
  | _ => none

def text? : Setting → Option String
  | .text contents => some contents
  | _ => none

def source? : Setting → Option String
  | .style source => some source
  | _ => none

end Setting

theorem getLast?_cons_orElse {α : Type} (first : α) (rest : List α) (before : Option α) :
    ((first :: rest).getLast? <|> before) = (rest.getLast? <|> some first) := by
  rw [List.getLast?_cons]
  cases rest.getLast? <;> rfl

/-- Settings are added one after the other, so the last of each kind counts, and the first style
that cannot be parsed ends it. -/
theorem foldlM_add (added : List Setting) (before : Attributes Callback) :
    added.foldlM Setting.add before
      = (((added.filterMap Setting.source?).mapM Style.parse).mapError Error.style).map
          fun styles =>
            { before with
              id := (added.filterMap Setting.id?).getLast? <|> before.id
              text := (added.filterMap Setting.text?).getLast? <|> before.text
              style := styles.getLast? <|> before.style } := by
  induction added generalizing before with
  | nil => rfl
  | cons setting rest ih =>
      rw [List.foldlM_cons]
      cases setting with
      | id contents =>
          change rest.foldlM Setting.add { before with id := some contents } = _
          rw [ih]
          simp only [List.filterMap_cons, Setting.id?, Setting.text?, Setting.source?,
            getLast?_cons_orElse]
      | text contents =>
          change rest.foldlM Setting.add { before with text := some contents } = _
          rw [ih]
          simp only [List.filterMap_cons, Setting.id?, Setting.text?, Setting.source?,
            getLast?_cons_orElse]
      | style source =>
          simp only [Setting.add, List.filterMap_cons, Setting.id?, Setting.text?, Setting.source?,
            List.mapM_cons]
          cases Style.parse source with
          | error fault => rfl
          | ok style =>
              change rest.foldlM Setting.add { before with style := some style } = _
              rw [ih]
              cases (rest.filterMap Setting.source?).mapM Style.parse with
              | error fault => rfl
              | ok styles =>
                  change Except.ok _ = Except.ok _
                  dsimp only
                  rw [getLast?_cons_orElse]

/-- The settings of one kind are the texts of the attributes with the names of that kind. -/
theorem filterMap_setting? {names : List String} {kind : Setting → Option String}
    (hkind : ∀ name contents, name ∈ attributeNames →
      (Attribute.setting? ⟨name, .text contents⟩).bind kind
        = if names.contains name then some contents else none)
    {attributes : List Attribute} (h : ∀ given ∈ attributes, given.Plain) :
    (attributes.filterMap Attribute.setting?).filterMap kind = contentsOf names attributes := by
  rw [List.filterMap_filterMap, contentsOf]
  induction attributes with
  | nil => rfl
  | cons given others ih =>
      obtain ⟨⟨hname, contents, hvalue⟩, hothers⟩ := List.forall_mem_cons.mp h
      obtain ⟨name, value⟩ := given
      obtain rfl : value = .text contents := hvalue
      rw [List.filterMap_cons, hkind name contents hname, ih hothers, List.filter_cons]
      dsimp only
      split <;> simp_all [Attribute.contents?]

theorem evaluate_settings {attributes : List Attribute} (h : ∀ given ∈ attributes, given.Plain) :
    (Given.settings (attributes.filterMap Attribute.setting?)).evaluate
      = ((attributesOf attributes).mapError Error.style).map .attributes := by
  have hids : (attributes.filterMap Attribute.setting?).filterMap Setting.id?
      = contentsOf ["id"] attributes := by
    refine filterMap_setting? (fun name contents hname => ?_) h
    rcases eq_of_mem_attributeNames hname with rfl | rfl | rfl | rfl | rfl <;> rfl
  have htexts : (attributes.filterMap Attribute.setting?).filterMap Setting.text?
      = contentsOf textNames attributes := by
    refine filterMap_setting? (fun name contents hname => ?_) h
    rcases eq_of_mem_attributeNames hname with rfl | rfl | rfl | rfl | rfl <;> rfl
  have hsources : (attributes.filterMap Attribute.setting?).filterMap Setting.source?
      = contentsOf ["style"] attributes := by
    refine filterMap_setting? (fun name contents hname => ?_) h
    rcases eq_of_mem_attributeNames hname with rfl | rfl | rfl | rfl | rfl <;> rfl
  rw [Given.evaluate, foldlM_add, hids, htexts, hsources, attributesOf]
  cases (contentsOf ["style"] attributes).mapM Style.parse with
  | error fault => rfl
  | ok styles =>
      change Except.ok _ = Except.ok _
      simp

theorem evaluate_givenOf {attributes : List Attribute} (h : ∀ given ∈ attributes, given.Plain) :
    (givenOf attributes).evaluate = argsOf attributes := by
  unfold givenOf argsOf
  split
  · rfl
  · cases loneText? attributes with
    | some contents => rfl
    | none => exact evaluate_settings h

end Storyboard.Markup
