import Storyboard.Proofs.Tree.Walk
import Storyboard.Tree.Access

/-!
# What a selector picks

`Selector.Picks` says which screen a presentation begins with: none in an empty tree, and otherwise
the first one, the one at a place, or the first one of a title.  It is what `select` looks for
(`Sound.select_eq_ok_iff`), and where a selector picks nothing the selection fails with what it
describes (`Sound.select_eq_error`).
-/

namespace Storyboard

/-- What the selector picks in the tree: nothing if there is nothing, or else a screen. -/
inductive Selector.Picks {κ : Type} (tree : Tree κ) : Selector → Option NodeId → Prop
  | nothing {selector : Selector} (hempty : tree.isEmpty = true) : Picks tree selector none
  | first {screen : NodeId} {later : List NodeId} (hscreens : tree.screens = screen :: later) :
      Picks tree .first (some screen)
  | index {place : Nat} {screen : NodeId} (hplace : tree.screens[place]? = some screen) :
      Picks tree (.index place) (some screen)
  /-- No screen before it has the same title. -/
  | title {text : String} {earlier later : List NodeId} {screen : NodeId}
      (hscreens : tree.screens = earlier ++ screen :: later) (htext : tree.textOf screen = text)
      (hearlier : ∀ other ∈ earlier, tree.textOf other ≠ text) :
      Picks tree (.title text) (some screen)

namespace Tree

variable {κ : Type} {tree : Tree κ} {selector : Selector} {entry : Option NodeId}

theorem screenWithTitle?_eq_some_iff {text : String} {screen : NodeId} :
    tree.screenWithTitle? text = some screen ↔ ∃ earlier later,
      tree.screens = earlier ++ screen :: later ∧ tree.textOf screen = text ∧
        ∀ other ∈ earlier, tree.textOf other ≠ text := by
  rw [screenWithTitle?, List.find?_eq_some_iff_append]
  constructor
  · rintro ⟨htext, earlier, later, hscreens, hearlier⟩
    exact ⟨earlier, later, hscreens, by simpa using htext, by simpa using hearlier⟩
  · rintro ⟨earlier, later, hscreens, htext, hearlier⟩
    exact ⟨by simpa using htext, earlier, later, hscreens, by simpa using hearlier⟩

/-- What a selection looks for if there are screens. -/
def sought? (tree : Tree κ) : Selector → Option NodeId
  | .first => tree.screens.head?
  | .index place => tree.screens[place]?
  | .title text => tree.screenWithTitle? text

theorem picks_some_iff {screen : NodeId} :
    selector.Picks tree (some screen) ↔ tree.sought? selector = some screen := by
  cases selector with
  | first =>
      rw [sought?, List.head?_eq_some_iff]
      exact ⟨fun h => by cases h with | first hscreens => exact ⟨_, hscreens⟩,
        fun ⟨_, hscreens⟩ => .first hscreens⟩
  | index place =>
      exact ⟨fun h => by cases h with | index hplace => exact hplace, .index⟩
  | title text =>
      rw [sought?, screenWithTitle?_eq_some_iff]
      constructor
      · intro h
        cases h with
        | title hscreens htext hearlier => exact ⟨_, _, hscreens, htext, hearlier⟩
      · rintro ⟨earlier, later, hscreens, htext, hearlier⟩
        exact .title hscreens htext hearlier

theorem picks_none_iff : selector.Picks tree none ↔ tree.isEmpty = true :=
  ⟨fun h => by cases h with | nothing hempty => exact hempty, .nothing⟩

/-- What is picked is one of the screens. -/
theorem mem_screens_of_picks {screen : NodeId} (h : selector.Picks tree (some screen)) :
    screen ∈ tree.screens := by
  cases h with
  | first hscreens => exact hscreens ▸ List.mem_cons_self
  | index hplace => exact List.mem_of_getElem? hplace
  | title hscreens => exact hscreens ▸ List.mem_append_right _ List.mem_cons_self

theorem sought?_eq_none (h : tree.screens = []) (selector : Selector) :
    tree.sought? selector = none := by
  cases selector with
  | first => rw [sought?, h, List.head?_nil]
  | index place => rw [sought?, h, List.getElem?_nil]
  | title text => rw [sought?, screenWithTitle?, h, List.find?_nil]

/-- A selection finds what is sought, unless there are no screens at all. -/
theorem select_eq_ite (tree : Tree κ) (selector : Selector) :
    tree.select selector =
      if tree.screens = [] then .ok none
      else
        match tree.sought? selector with
        | some screen => .ok (some screen)
        | none => .error (.screenNotFound selector.describe) := by
  unfold select
  simp only [List.isEmpty_iff]
  cases selector <;> rfl

theorem isEmpty_eq_false {id : NodeId} (h : tree.contains id = true) : tree.isEmpty = false := by
  obtain ⟨node, hnode⟩ := Option.isSome_iff_exists.mp h
  cases hentries : tree.nodes.entries with
  | nil =>
      rw [Registry.get?, hentries] at hnode
      cases hnode
  | cons first rest => rw [isEmpty, hentries, List.isEmpty_cons]

namespace Sound

/-- A tree without screens is empty. -/
theorem screens_eq_nil_iff (h : tree.Sound) : tree.screens = [] ↔ tree.isEmpty = true := by
  constructor
  · intro hscreens
    by_contra hnonempty
    obtain ⟨⟨id, node⟩, hentry⟩ : ∃ entry, entry ∈ tree.nodes.entries :=
      List.exists_mem_of_ne_nil _ (by simpa [isEmpty] using hnonempty)
    -- the way up from any node ends at a screen
    have hlive : tree.contains id = true :=
      Registry.contains_of_get? ((h.nodes_latestFirst.mem_entries_iff id node).mp hentry)
    obtain ⟨levels, screen, hscreen, -⟩ := h.rooted hlive
    rw [hscreens] at hscreen
    cases hscreen
  · intro hempty
    by_contra hscreens
    obtain ⟨screen, hscreen⟩ := List.exists_mem_of_ne_nil _ hscreens
    rw [isEmpty_eq_false (h.contains_screen hscreen)] at hempty
    cases hempty

/-- A selection succeeds with what the selector picks. -/
theorem select_eq_ok_iff (h : tree.Sound) :
    tree.select selector = .ok entry ↔ selector.Picks tree entry := by
  rw [select_eq_ite]
  by_cases hscreens : tree.screens = []
  · rw [if_pos hscreens]
    cases entry with
    | none => simp [picks_none_iff, ← h.screens_eq_nil_iff, hscreens]
    | some screen => simp [picks_some_iff, sought?_eq_none hscreens]
  · rw [if_neg hscreens]
    cases entry with
    | none =>
        rw [picks_none_iff, ← h.screens_eq_nil_iff]
        cases tree.sought? selector <;> simp [hscreens]
    | some screen =>
        rw [picks_some_iff]
        cases tree.sought? selector <;> simp

/-- A selector that picks nothing is refused. -/
theorem select_eq_error (h : tree.Sound) (hnone : ∀ entry, ¬ selector.Picks tree entry) :
    tree.select selector = .error (.screenNotFound selector.describe) := by
  have hscreens : tree.screens ≠ [] := by
    intro hnil
    exact hnone none (picks_none_iff.mpr (h.screens_eq_nil_iff.mp hnil))
  rw [select_eq_ite, if_neg hscreens]
  cases hsought : tree.sought? selector with
  | none => rfl
  | some screen => exact absurd (picks_some_iff.mpr hsought) (hnone (some screen))

/-- A selector picks nothing else. -/
theorem picks_unique (h : tree.Sound) {other : Option NodeId} (hentry : selector.Picks tree entry)
    (hother : selector.Picks tree other) : entry = other := by
  have hselect : tree.select selector = .ok entry := h.select_eq_ok_iff.mpr hentry
  rw [h.select_eq_ok_iff.mpr hother] at hselect
  exact (Except.ok.inj hselect).symm

end Sound

end Tree

end Storyboard
