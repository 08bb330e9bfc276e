import Storyboard.Proofs.Code.Literal
import Storyboard.Proofs.Code.Quoted
import Storyboard.Proofs.Style.RoundTrip
import Storyboard.Tree.Outline

/-!
# The line of a node

A node is written on one line, and nothing of it gets lost there.  The type name and the id end
where one of the characters comes that they must not have; the text is read back from between its
quotes, whatever it is; and a style that was read from a text is read back from its written form.
So two legible nodes with the same line look alike (`Node.looksLike_of_line_eq`).  That line has no
line feed in it, and since it starts with no space, what it is indented by can be told as well
(`Node.eq_of_indented_eq`).
-/

namespace Storyboard

open Storyboard.Code (Follows eq_of_append_eq lineFeed_notMem_quoteChars textFrom?_contents)
open Storyboard.Text (quoteChar quoteChars)

namespace Node

variable {κ : Type} {node other : Node κ}

/-- The nodes look alike when they are written down. -/
structure LooksLike (node other : Node κ) : Prop where
  typeName_eq : node.typeName = other.typeName
  id_eq : node.id = other.id
  text_eq : node.text = other.text
  style_eq : node.style = other.style

/-- Characters that a name must not have if it is to be told apart from what stands around it. -/
def nameEnds : List Char := ['\n', ' ', '#', '"', '\x7b']

/-- What is written of the node can be told apart. -/
structure Legible (node : Node κ) : Prop where
  typeName_ne_empty : node.typeName ≠ ""
  typeName_plain : ∀ c ∈ node.typeName.toList, c ∉ nameEnds
  id_plain : ∀ c ∈ node.id.toList, c ∉ nameEnds
  style_read : ∃ input, Style.parse input = .ok node.style
  style_unbroken : ∀ entry ∈ node.style.entries, '\n' ∉ entry.2.toList

/-! ## The parts of a line -/

/-- The id with its hash. -/
def idPart (node : Node κ) : List Char :=
  if node.id.isEmpty then [] else '#' :: node.id.toList

/-- The text in its quotes, with the space before them. -/
def textPart (node : Node κ) : List Char :=
  if node.text.isEmpty then [] else ' ' :: quoteChars node.text.toList

/-- The style in its braces, with the space before them. -/
def stylePart (node : Node κ) : List Char :=
  if node.style.isEmpty then [] else ' ' :: '\x7b' :: (node.style.render.toList ++ ['\x7d'])

theorem toList_line (node : Node κ) :
    node.line.toList =
      node.typeName.toList ++ (node.idPart ++ (node.textPart ++ node.stylePart)) := by
  unfold line idPart textPart stylePart
  split <;> split <;> split <;> simp [Text.quoted]

theorem follows_stylePart (node : Node κ) : Follows [' '] node.stylePart := by
  unfold stylePart
  split <;> simp

theorem follows_textPart (node : Node κ) : Follows [' '] (node.textPart ++ node.stylePart) := by
  unfold textPart
  split
  · exact node.follows_stylePart
  · simp

theorem follows_idPart (node : Node κ) :
    Follows ['#', ' '] (node.idPart ++ (node.textPart ++ node.stylePart)) := by
  unfold idPart
  split
  · intro c hc
    exact List.mem_cons_of_mem _ (node.follows_textPart c hc)
  · simp

/-! ## Reading the parts -/

theorem id_eq_of_idPart_eq (h : node.idPart = other.idPart) : node.id = other.id := by
  unfold idPart at h
  split at h <;> split at h
  · simp_all
  · cases h
  · cases h
  · exact String.ext (List.cons.inj h).2

theorem textPart_eq_cons (htext : node.text.isEmpty = false) :
    node.textPart = ' ' :: quoteChars node.text.toList := by
  simp [textPart, htext]

theorem textPart_ne_stylePart (htext : node.text.isEmpty = false) (rest : List Char) :
    node.textPart ++ rest ≠ other.stylePart := by
  rw [textPart_eq_cons htext]
  unfold stylePart
  split <;> simp [quoteChars]

/-- A text is read back from its quotes, whatever follows them. -/
theorem eq_of_quoteChars_append_eq {text contents rest behind : List Char}
    (h : quoteChars text ++ rest = quoteChars contents ++ behind) :
    text = contents ∧ rest = behind := by
  simp only [quoteChars, List.cons_append, List.cons.injEq, true_and, List.append_assoc,
    List.nil_append] at h
  have htext := textFrom?_contents text rest
  rw [h, textFrom?_contents, Option.some.injEq, Prod.mk.injEq] at htext
  obtain ⟨rfl, -⟩ := htext
  exact ⟨rfl, (List.cons.inj (List.append_cancel_left h)).2⟩

theorem text_eq_of_textPart_eq
    (h : node.textPart ++ node.stylePart = other.textPart ++ other.stylePart) :
    node.text = other.text ∧ node.stylePart = other.stylePart := by
  cases htext : node.text.isEmpty with
  | true =>
      have hnone : node.textPart = [] := if_pos htext
      cases hother : other.text.isEmpty with
      | true =>
          have hnone' : other.textPart = [] := if_pos hother
          rw [hnone, hnone'] at h
          exact ⟨(String.isEmpty_iff.mp htext).trans (String.isEmpty_iff.mp hother).symm, h⟩
      | false =>
          rw [hnone] at h
          exact absurd h.symm (textPart_ne_stylePart hother _)
  | false =>
      cases hother : other.text.isEmpty with
      | true =>
          have hnone : other.textPart = [] := if_pos hother
          rw [hnone] at h
          exact absurd h (textPart_ne_stylePart htext _)
      | false =>
          rw [textPart_eq_cons htext, textPart_eq_cons hother] at h
          obtain ⟨hchars, hstyle⟩ := eq_of_quoteChars_append_eq (List.cons.inj h).2
          exact ⟨String.ext hchars, hstyle⟩

theorem style_eq_of_stylePart_eq (hread : ∃ input, Style.parse input = .ok node.style)
    (hother : ∃ input, Style.parse input = .ok other.style)
    (h : node.stylePart = other.stylePart) : node.style = other.style := by
  unfold stylePart at h
  split at h <;> split at h
  case isTrue.isTrue hempty hempty' =>
    apply Style.eq_of_entries_eq
    rw [List.isEmpty_iff.mp hempty, List.isEmpty_iff.mp hempty']
  case isFalse.isFalse =>
    -- what is written is the same, and so is what is read back from it
    obtain ⟨input, hinput⟩ := hread
    obtain ⟨input', hinput'⟩ := hother
    have hrender : node.style.render = other.style.render :=
      String.ext (List.append_cancel_right (List.cons.inj (List.cons.inj h).2).2)
    have hagain := Style.parse_render_of_declared (Style.declared_of_parse hinput)
    rw [hrender, Style.parse_render_of_declared (Style.declared_of_parse hinput')] at hagain
    exact (Except.ok.inj hagain).symm
  all_goals cases h

theorem not_space_of_mem_idPart (h : node.Legible) : ∀ c ∈ node.idPart, c ∉ [' '] := by
  intro c hc
  unfold idPart at hc
  split at hc
  · cases hc
  · rcases List.mem_cons.mp hc with rfl | hid
    · simp
    · have hplain := h.id_plain c hid
      simp_all [nameEnds]

/-- Legible nodes with the same line look alike. -/
theorem looksLike_of_line_eq (h : node.Legible) (hother : other.Legible)
    (hline : node.line = other.line) : node.LooksLike other := by
  have hplain {c : Char} (hc : c ∉ nameEnds) : c ∉ ['#', ' '] := by simp_all [nameEnds]
  have hchars := congrArg String.toList hline
  rw [toList_line, toList_line] at hchars
  obtain ⟨htypeName, hchars⟩ := eq_of_append_eq (fun c hc => hplain (h.typeName_plain c hc))
    (fun c hc => hplain (hother.typeName_plain c hc)) node.follows_idPart other.follows_idPart
    hchars
  obtain ⟨hid, hchars⟩ := eq_of_append_eq (not_space_of_mem_idPart h)
    (not_space_of_mem_idPart hother) node.follows_textPart other.follows_textPart hchars
  obtain ⟨htext, hstyle⟩ := text_eq_of_textPart_eq hchars
  exact {
    typeName_eq := String.ext htypeName
    id_eq := id_eq_of_idPart_eq hid
    text_eq := htext
    style_eq := style_eq_of_stylePart_eq h.style_read hother.style_read hstyle }

/-! ## Lines among others -/

theorem notMem_intercalate {c : Char} {separator : List Char} {pieces : List (List Char)}
    (hseparator : c ∉ separator) (hpieces : ∀ piece ∈ pieces, c ∉ piece) :
    c ∉ separator.intercalate pieces := by
  induction pieces with
  | nil => simp
  | cons piece pieces ih =>
      obtain ⟨hpiece, hrest⟩ := List.forall_mem_cons.mp hpieces
      cases pieces with
      | nil => simpa using hpiece
      | cons next pieces =>
          rw [List.intercalate_cons_cons]
          simp only [List.mem_append, not_or]
          exact ⟨⟨hpiece, hseparator⟩, ih hrest⟩

/-- A style that was read is written on one line if its values are. -/
theorem lineFeed_notMem_render {style : Style} (hread : ∃ input, Style.parse input = .ok style)
    (hunbroken : ∀ entry ∈ style.entries, '\n' ∉ entry.2.toList) : '\n' ∉ style.render.toList := by
  obtain ⟨input, hinput⟩ := hread
  rw [Style.render, String.toList_intercalate]
  refine notMem_intercalate (by decide) fun piece hpiece => ?_
  rw [List.map_map] at hpiece
  obtain ⟨entry, hentry, rfl⟩ := List.mem_map.mp hpiece
  -- the name is a word, and no word has a line feed in it
  obtain ⟨declaration, hdeclaration⟩ := Style.declared_of_parse hinput entry hentry
  have hname : '\n' ∉ entry.1.toList := by
    rw [← hdeclaration]
    intro hmem
    have hplain := Style.plain_of_identifier declaration.name_kind
    exact hplain '\n' (by simpa [Style.Declaration.entry] using hmem) (by decide)
  simp [Style.renderEntry, hname, hunbroken entry hentry]

theorem lineFeed_notMem_line (h : node.Legible) : '\n' ∉ node.line.toList := by
  have htypeName : '\n' ∉ node.typeName.toList := fun hmem =>
    h.typeName_plain '\n' hmem (by decide)
  have hid : '\n' ∉ node.idPart := by
    have hplain : '\n' ∉ node.id.toList := fun hmem => h.id_plain '\n' hmem (by decide)
    unfold idPart
    split <;> simp [hplain]
  have htext : '\n' ∉ node.textPart := by
    have hquoted := lineFeed_notMem_quoteChars node.text.toList
    unfold textPart
    split <;> simp [hquoted]
  have hstyle : '\n' ∉ node.stylePart := by
    have hrender := lineFeed_notMem_render h.style_read h.style_unbroken
    unfold stylePart
    split <;> simp [hrender]
  rw [toList_line]
  simp only [List.mem_append, not_or]
  exact ⟨htypeName, hid, htext, hstyle⟩

/-- A line starts with the first character of a type name. -/
theorem Legible.exists_line_eq_cons (h : node.Legible) :
    ∃ c rest, node.line.toList = c :: rest ∧ c ≠ ' ' := by
  have hne : node.typeName.toList ≠ [] := fun hnil =>
    h.typeName_ne_empty (String.toList_eq_nil_iff.mp hnil)
  obtain ⟨c, rest, hcons⟩ := List.exists_cons_of_ne_nil hne
  refine ⟨c, rest ++ (node.idPart ++ (node.textPart ++ node.stylePart)), ?_, ?_⟩
  · rw [toList_line, hcons, List.cons_append]
  · rintro rfl
    exact h.typeName_plain ' ' (hcons ▸ List.mem_cons_self) (by decide)

/-- What a line is indented by can be told from the line. -/
theorem eq_of_indented_eq (h : node.Legible) (hother : other.Legible) {depth under : Nat}
    (hline : Tree.indented depth node = Tree.indented under other) :
    depth = under ∧ node.line = other.line := by
  obtain ⟨c, rest, hcons, hc⟩ := h.exists_line_eq_cons
  obtain ⟨d, behind, hcons', hd⟩ := hother.exists_line_eq_cons
  have hchars := congrArg String.toList hline
  simp only [Tree.indented, String.toList_append, String.toList_ofList] at hchars
  have hspaces {width : Nat} : ∀ space ∈ List.replicate width ' ', space ∉ [c, d] := by
    intro space hspace
    rw [List.eq_of_mem_replicate hspace]
    simp [hc.symm, hd.symm]
  obtain ⟨hwidth, hrest⟩ := eq_of_append_eq hspaces hspaces (by simp [hcons]) (by simp [hcons'])
    hchars
  have hlength := congrArg List.length hwidth
  rw [List.length_replicate, List.length_replicate] at hlength
  exact ⟨by omega, String.ext hrest⟩

end Node

end Storyboard
