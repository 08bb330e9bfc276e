import Storyboard.Proofs.Sheet.Building
import Storyboard.Proofs.Sheet.Division
import Storyboard.Proofs.Sheet.Reading
import Storyboard.Proofs.Style.RoundTrip

/-!
# Sheets that are read back

A sheet keeps the spelling of its numbers, its colours and its texts, and code has more of them than
style text.  So not every style that a sheet builds is read back from its written form.  It is just
if every property is an identifier and every value one lexeme of style text, or a call of such
values (`expand_readsBack_iff`); a number with gaps between its digits is not
(`grouped_not_readsBack`).
-/

namespace Storyboard.Style

variable {style : Style}

/-- Where a property is new, it is added to those that are there. -/
theorem mem_insertEntry_iff {property value : String} {entries : List (String × String)}
    (hnew : ∀ entry ∈ entries, entry.1 ≠ property) (pair : String × String) :
    pair ∈ insertEntry property value entries ↔ pair = (property, value) ∨ pair ∈ entries := by
  induction entries with
  | nil => simp [insertEntry]
  | cons head rest ih =>
      obtain ⟨name, old⟩ := head
      obtain ⟨hname, hrest⟩ := List.forall_mem_cons.mp hnew
      rw [insertEntry]
      split
      case isTrue => exact List.mem_cons
      case isFalse hge =>
        split
        case isTrue =>
          rw [List.mem_cons, ih hrest, List.mem_cons]
          tauto
        case isFalse hle =>
          have hsame : name = property :=
            String.le_antisymm (String.not_lt.mp hge) (String.not_lt.mp hle)
          exact absurd hsame hname

theorem mem_foldl_set_iff {pairs : List (String × String)}
    (hnew : ∀ entry ∈ style.entries, entry.1 ∉ pairs.map Prod.fst)
    (hdistinct : (pairs.map Prod.fst).Nodup) (pair : String × String) :
    pair ∈ (pairs.foldl (fun style (property, value) => style.set property value) style).entries ↔
      pair ∈ style.entries ∨ pair ∈ pairs := by
  induction pairs generalizing style with
  | nil => simp
  | cons first pairs ih =>
      obtain ⟨property, value⟩ := first
      simp only [List.map_cons, List.mem_cons, not_or] at hnew
      obtain ⟨hfirst, hrest⟩ := List.nodup_cons.mp hdistinct
      have hset : ∀ entry ∈ (style.set property value).entries, entry.1 ∉ pairs.map Prod.fst := by
        intro entry hentry
        rcases mem_insertEntry hentry with rfl | hentry
        · exact hfirst
        · exact (hnew entry hentry).2
      have hinsert : pair ∈ (style.set property value).entries ↔
          pair = (property, value) ∨ pair ∈ style.entries :=
        mem_insertEntry_iff (fun entry hentry => (hnew entry hentry).1) pair
      rw [List.foldl_cons, ih hset hrest, hinsert, List.mem_cons]
      tauto

/-- Pairs of different properties are the properties of the style that is made of them. -/
theorem mem_ofList_iff {pairs : List (String × String)} (hdistinct : (pairs.map Prod.fst).Nodup)
    (pair : String × String) : pair ∈ (ofList pairs).entries ↔ pair ∈ pairs := by
  have hnew : ∀ entry ∈ empty.entries, entry.1 ∉ pairs.map Prod.fst :=
    fun _ hentry => absurd hentry List.not_mem_nil
  have hempty : pair ∉ empty.entries := List.not_mem_nil
  rw [ofList, mem_foldl_set_iff hnew hdistinct]
  exact or_iff_right hempty

end Storyboard.Style

namespace Storyboard.Sheet

open Storyboard.Code

/-- The property is an identifier of style text, and the values are a wording. -/
def Declaration.IsWorded (declaration : Declaration) : Prop :=
  ∃ (name : Style.Lexeme) (wording : Wording), name.kind = .identifier ∧ wording ≠ .done ∧
    String.ofList name.text = declaration.property ∧ wording.values = declaration.values

/-- Written values are those of a declaration of style text just if they are a wording. -/
theorem Declaration.isWorded_iff {declaration : Declaration} (hnonempty : declaration.values ≠ [])
    (hwritten : Written declaration.values) :
    declaration.IsWorded ↔ ∃ styled : Style.Declaration, styled.entry = declaration.entry := by
  constructor
  · rintro ⟨name, wording, isName, hwording, hproperty, hvalues⟩
    refine ⟨wording.declaration name isName hwording, ?_⟩
    rw [Wording.entry_declaration, hproperty, hvalues]
    rfl
  · rintro ⟨styled, hentry⟩
    obtain ⟨hproperty, hvalue⟩ := Prod.mk.inj hentry
    have hjoined : Style.joined none styled.value =
        (Wording.spelled false declaration.values).toList ++ [] := by
      have htext := congrArg String.toList hvalue
      rw [String.toList_ofList] at htext
      rw [List.append_nil, htext]
      rfl
    obtain ⟨wording, -, -, hvalues, -, -⟩ :=
      hwritten.exists_wording (follows_nil _) .done hjoined
    refine ⟨styled.name, wording, styled.name_kind, ?_, hproperty, hvalues⟩
    rintro rfl
    exact hnonempty hvalues.symm

/-! ## Sheets -/

/-- What is accepted as a sheet declares different properties with written values, and expands to
their code. -/
theorem exists_declarations_of_expand {text : String} {code : Code}
    (h : expand text = .ok code) :
    ∃ declarations, readAs readDeclarations text = .ok declarations ∧
      (∀ declaration ∈ declarations, declaration.values ≠ [] ∧ Written declaration.values) ∧
      code = expansion declarations ∧ (declarations.map Declaration.property).Nodup := by
  unfold expand readAs at h
  cases hread : read? text with
  | none =>
      rw [hread] at h
      cases h
  | some source =>
      rw [hread] at h
      simp only [expandCode] at h
      split at h
      case h_1 => cases h
      case h_2 => cases h
      case h_3 declarations _ hdeclarations =>
        split at h
        case h_1 => cases h
        case h_2 hnone =>
          cases h
          have hwritten := written_of_readDeclarations hdeclarations (isClear_of_read? hread)
          refine ⟨declarations, ?_, hwritten, rfl, (declaredAgain?_eq_none_iff.mp hnone).2⟩
          rw [readAs, hread]
          exact hdeclarations

/-- What a sheet builds is read back from its written form just if the properties of the sheet are
identifiers and its values are made of lexemes. -/
theorem expand_readsBack_iff {text : String} {code : Code} (h : expand text = .ok code) :
    ∃ declarations style, readAs readDeclarations text = .ok declarations ∧
      built? code = some style ∧
      (Style.parse style.render = .ok style ↔
        ∀ declaration ∈ declarations, declaration.IsWorded) := by
  obtain ⟨declarations, hread, hwritten, rfl, hdistinct⟩ := exists_declarations_of_expand h
  refine ⟨declarations, styleOf declarations, hread, built?_expansion declarations, ?_⟩
  have hproperties : ((declarations.map Declaration.entry).map Prod.fst).Nodup := by
    simpa [Declaration.entry, Function.comp_def] using hdistinct
  have hdeclared : Style.Declared (styleOf declarations) ↔
      ∀ declaration ∈ declarations, declaration.IsWorded := by
    simp only [Style.Declared, styleOf, Style.mem_ofList_iff hproperties, List.forall_mem_map]
    refine forall₂_congr fun declaration hmem => ?_
    exact
      (Declaration.isWorded_iff (hwritten declaration hmem).1 (hwritten declaration hmem).2).symm
  rw [← hdeclared]
  exact ⟨Style.declared_of_parse, Style.parse_render_of_declared⟩

/-- The code of a sheet with a unit and a call. -/
def sizedCode : Code :=
  expansion [⟨"width", [.plain "-1.5em"]⟩,
    ⟨"color", [.call "rgb" [.plain "1", .comma, .plain "2"]]⟩]

theorem expand_readsBack_iff_sized :
    expand "width: -1.5em; color: rgb(1,2)" = .ok sizedCode ∧
      ∃ declarations style,
        readAs readDeclarations "width: -1.5em; color: rgb(1,2)" = .ok declarations ∧
        built? sizedCode = some style ∧
        (Style.parse style.render = .ok style ↔
          ∀ declaration ∈ declarations, declaration.IsWorded) := by
  have hexpand : expand "width: -1.5em; color: rgb(1,2)" = .ok sizedCode := by decide +kernel
  exact ⟨hexpand, expand_readsBack_iff hexpand⟩

/-- The style of a number with a gap between its digits. -/
def groupedStyle : Style := Style.empty.set "w" "100_000px"

/-- In style text the digits behind the gap are a word of their own. -/
theorem grouped_not_readsBack :
    expand "w: 100_000px;" = .ok (expansion [⟨"w", [.plain "100_000px"]⟩]) ∧
      built? (expansion [⟨"w", [.plain "100_000px"]⟩]) = some groupedStyle ∧
      Style.parse groupedStyle.render = .ok (Style.empty.set "w" "100 _000px") ∧
      Style.parse groupedStyle.render ≠ .ok groupedStyle := by
  decide +kernel

end Storyboard.Sheet
