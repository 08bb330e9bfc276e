import Storyboard.Markup.Reading

/-!
# How an element is read

What the reader of elements accepts, one piece after the other.  `Reads` has a rule for each thing
that may come next, so that what holds of every element that is read is shown by going through these
rules.
-/

namespace Storyboard.Markup

open Storyboard.Code

/-- Where the reader stands: inside an opening tag, between the tags of an open element, or behind
an element.  The elements that are open around that come with it, the innermost first. -/
inductive Position where
  | inTag (outer : List Open) (tag : String) (attributes : List Attribute)
  | inside (outer : List Open) (opened : Open)
  | behind (outer : List Open) (element : Element)

section

variable (reader : ExpressionReader)

/-- From a position, code is read up to some rest, and the outermost element is this one. -/
inductive Reads : Position → Code → Element → Code → Prop
  | root (element : Element) (rest : Code) : Reads (.behind [] element) rest element rest
  | child {outer : List Open} {parent : Open} {element root : Element} {code rest : Code}
      (h : Reads (.inside outer (parent.push element)) code root rest) :
      Reads (.behind (parent :: outer) element) code root rest
  | selfClosing {outer : List Open} {tag : String} {attributes : List Attribute} {root : Element}
      {isJoined isLast : Bool} {code rest : Code}
      (h : Reads (.behind outer ⟨tag, attributes, [], true⟩) code root rest) :
      Reads (.inTag outer tag attributes)
        (.token (.sign '/' isJoined) (.token (.sign '>' isLast) code)) root rest
  | opening {outer : List Open} {tag : String} {attributes : List Attribute} {root : Element}
      {isJoined : Bool} {code rest : Code}
      (h : Reads (.inside outer ⟨tag, attributes, []⟩) code root rest) :
      Reads (.inTag outer tag attributes) (.token (.sign '>' isJoined) code) root rest
  | text {outer : List Open} {tag name contents : String} {attributes : List Attribute}
      {root : Element} {isJoined : Bool} {code rest : Code} (hname : name ∈ attributeNames)
      (hclick : name ≠ "onclick")
      (h : Reads (.inTag outer tag (attributes ++ [⟨name, .text contents⟩])) code root rest) :
      Reads (.inTag outer tag attributes)
        (.token (.word name) (.token (.sign '=' isJoined) (.token (.text contents) code))) root rest
  | expression {outer : List Open} {tag name : String} {attributes : List Attribute}
      {root : Element} {isJoined : Bool} {inner code rest : Code} {found : Expression}
      (hname : name ∈ attributeNames) (hfound : reader inner = some found)
      (h : Reads (.inTag outer tag (attributes ++
        [⟨name, .expression found.code (found.isWhole && found.behind.isDone)⟩])) code root rest) :
      Reads (.inTag outer tag attributes)
        (.token (.word name) (.token (.sign '=' isJoined) (.group .curly inner code))) root rest
  | nested {outer : List Open} {opened : Open} {tag : String} {root : Element} {isJoined : Bool}
      {code rest : Code} (htag : isName tag = true)
      (h : Reads (.inTag (opened :: outer) tag []) code root rest) :
      Reads (.inside outer opened) (.token (.sign '<' isJoined) (.token (.word tag) code)) root rest
  | closing {outer : List Open} {opened : Open} {root : Element} {isJoined isSecond isLast : Bool}
      {code rest : Code} (htag : isName opened.tag = true)
      (h : Reads (.behind outer opened.close) code root rest) :
      Reads (.inside outer opened)
        (.token (.sign '<' isJoined) (.token (.sign '/' isSecond)
          (.token (.word opened.tag) (.token (.sign '>' isLast) code)))) root rest

/-- What the reader answers at a position. -/
def Position.read : Position → Code → Except Refusal (Element × Code)
  | .inTag outer tag attributes, code => readTag reader outer tag attributes code
  | .inside outer opened, code => readContents reader outer opened code
  | .behind [] element, code => .ok (element, code)
  | .behind (parent :: outer) element, code => readContents reader outer (parent.push element) code

end

variable {reader : ExpressionReader}

theorem isName_of_mem_attributeNames {name : String} (h : name ∈ attributeNames) :
    isName name = true := by
  simp only [attributeNames, List.mem_cons, List.not_mem_nil, or_false] at h
  rcases h with rfl | rfl | rfl | rfl | rfl <;> decide +kernel

theorem Reads.read {position : Position} {code rest : Code} {root : Element}
    (h : Reads reader position code root rest) : position.read reader code = .ok (root, rest) := by
  induction h with
  | root element rest => rfl
  | child _ ih => exact ih
  | selfClosing _ ih =>
      rename_i outer _ _ _ _ _ _ _ _
      cases outer <;> simpa [Position.read, readTag] using ih
  | opening _ ih => simpa [Position.read, readTag] using ih
  | text hname hclick _ ih =>
      simpa [Position.read, readTag, isName_of_mem_attributeNames hname, hname, hclick] using ih
  | expression hname hfound _ ih =>
      simpa [Position.read, readTag, isName_of_mem_attributeNames hname, hname, hfound] using ih
  | nested htag _ ih => simpa [Position.read, readContents, htag] using ih
  | closing htag _ ih =>
      rename_i outer _ _ _ _ _ _ _ _
      cases outer <;> simpa [Position.read, readContents, htag] using ih

/-- What is read is read by the rules. -/
theorem reads_reading :
    (∀ (outer : List Open) (tag : String) (attributes : List Attribute) (code : Code),
      ∀ read, readTag reader outer tag attributes code = .ok read →
        Reads reader (.inTag outer tag attributes) code read.1 read.2)
    ∧ ∀ (outer : List Open) (opened : Open) (code : Code),
      ∀ read, readContents reader outer opened code = .ok read →
        Reads reader (.inside outer opened) code read.1 read.2 := by
  apply readTag.mutual_induct reader
  all_goals
    intros
    rename_i h
    first
    | rw [readTag.eq_def] at h
    | rw [readContents.eq_def] at h
    grind [Reads]

/-- An element is read where a tag begins. -/
theorem readElement_eq_ok_iff {code rest : Code} {element : Element} :
    readElement reader code = .ok (element, rest) ↔ ∃ isJoined tag behind,
      code = .token (.sign '<' isJoined) (.token (.word tag) behind) ∧ isName tag = true ∧
        Reads reader (.inTag [] tag []) behind element rest := by
  constructor
  · intro h
    unfold readElement at h
    split at h
    · split at h
      · rename_i htag
        exact ⟨_, _, _, rfl, htag, reads_reading.1 _ _ _ _ _ h⟩
      · cases h
    · cases h
  · rintro ⟨isJoined, tag, behind, rfl, htag, h⟩
    simpa [readElement, htag, Position.read] using h.read

/-- What follows does not change what is read. -/
theorem Reads.append {position : Position} {code rest : Code} {root : Element}
    (h : Reads reader position code root rest) (more : Code) :
    Reads reader position (code ++ more) root (rest ++ more) := by
  induction h with
  | root element rest => exact .root element (rest ++ more)
  | child _ ih => exact .child ih
  | selfClosing _ ih => exact .selfClosing ih
  | opening _ ih => exact .opening ih
  | text hname hclick _ ih => exact .text hname hclick ih
  | expression hname hfound _ ih => exact .expression hname hfound ih
  | nested htag _ ih => exact .nested htag ih
  | closing htag _ ih => exact .closing htag ih

theorem readElement_append {code rest : Code} {element : Element}
    (h : readElement reader code = .ok (element, rest)) (more : Code) :
    readElement reader (code ++ more) = .ok (element, rest ++ more) := by
  obtain ⟨isJoined, tag, behind, rfl, htag, hreads⟩ := readElement_eq_ok_iff.mp h
  exact readElement_eq_ok_iff.mpr ⟨isJoined, tag, behind ++ more, rfl, htag, hreads.append more⟩

/-! ## Elements one after the other -/

theorem readElements_done : readElements reader .done = .ok [] := by
  rw [readElements]

theorem readElements_of_error {code : Code} {refusal : Refusal}
    (h : readElement reader code = .error refusal) (hsome : code ≠ .done) :
    readElements reader code = .error refusal := by
  rw [readElements.eq_def]
  split
  · contradiction
  · split
    · next hsame =>
        rw [h] at hsame
        cases hsame
        rfl
    · next hother =>
        rw [h] at hother
        cases hother

theorem readElements_of_readElement {code rest : Code} {element : Element}
    (h : readElement reader code = .ok (element, rest)) :
    readElements reader code = (readElements reader rest).map (element :: ·) := by
  obtain ⟨_, _, _, rfl, -, -⟩ := readElement_eq_ok_iff.mp h
  rw [readElements.eq_def]
  split
  · contradiction
  · split
    · next hother =>
        rw [h] at hother
        cases hother
    · next hsame =>
        rw [h] at hsame
        cases hsame
        cases readElements reader rest <;> rfl

/-- Elements are read from nothing, or the first one is and the others are from the code behind it.
-/
theorem readElements_cases {code : Code} {elements : List Element}
    (h : readElements reader code = .ok elements) :
    code = .done ∧ elements = [] ∨
      ∃ element rest others, readElement reader code = .ok (element, rest) ∧
      readElements reader rest = .ok others ∧ elements = element :: others := by
  by_cases hdone : code = .done
  · rw [hdone, readElements_done] at h
    cases h
    exact .inl ⟨hdone, rfl⟩
  · cases hcode : readElement reader code with
    | error refusal =>
        rw [readElements_of_error hcode hdone] at h
        cases h
    | ok read =>
        obtain ⟨element, rest⟩ := read
        rw [readElements_of_readElement hcode] at h
        cases hothers : readElements reader rest with
        | error refusal =>
            rw [hothers] at h
            cases h
        | ok others =>
            rw [hothers] at h
            cases h
            exact .inr ⟨element, rest, others, rfl, hothers, rfl⟩

/-- Elements are read in front of whatever follows. -/
theorem readElements_append {first second : Code} {elements : List Element}
    (h : readElements reader first = .ok elements) :
    readElements reader (first ++ second) = (readElements reader second).map (elements ++ ·) := by
  induction elements generalizing first with
  | nil =>
      obtain ⟨rfl, -⟩ | ⟨_, _, _, -, -, ⟨⟩⟩ := readElements_cases h
      rw [Code.done_append]
      cases readElements reader second <;> rfl
  | cons element others ih =>
      obtain ⟨-, ⟨⟩⟩ | ⟨_, rest, _, helement, hothers, ⟨⟩⟩ := readElements_cases h
      rw [readElements_of_readElement (readElement_append helement second), ih hothers]
      cases readElements reader second <;> rfl

end Storyboard.Markup
