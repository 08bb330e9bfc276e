import Mathlib.Data.List.Chain
import Storyboard.Code.Phrase
import Storyboard.Sheet.Declaration

/-!
# Where values end

Blanks do not count in code, so where a value ends is decided by what stands behind it: a dash with
a word, a percent sign and a round bracket go on with some value (`goesOn`), and a word goes on with
a colour whose digits are those of a number (`beginsWithWord`).  No value begins with the first.  So
values that are written one after the other are read as each of them is read by itself, unless a
value that begins with a word stands directly behind such a colour; and then they never are.
-/

namespace Storyboard.Sheet

open Storyboard.Code Storyboard.Text

/-- Whether the code begins with what may go on with a name or with a number. -/
def goesOn : Code → Bool
  | .token (.sign '-' _) (.token (.word _) _) => true
  | .token (.sign '%' _) _ => true
  | .group .round _ _ => true
  | _ => false

def beginsWithWord : Code → Bool
  | .token (.word _) _ => true
  | _ => false

/-- Whether the code begins with a colour whose digits are those of a number. -/
def isNumberColor : Code → Bool
  | .token (.sign '#' _) (.token (.number _) _) => true
  | _ => false

variable {code rest : Code}

/-! ## Names -/

/-- The code is a name: words with dashes between them. -/
inductive IsDashed : String → Code → Prop
  | word {name : String} (hname : isName name = true) (hnonempty : name ≠ "") :
      IsDashed name (.token (.word name) .done)
  | dash {first more : String} {code : Code} (isJoined : Bool) (hfirst : isName first = true)
      (hnonempty : first ≠ "") (hmore : IsDashed more code) :
      IsDashed (first ++ "-" ++ more) (.token (.word first) (.token (.sign '-' isJoined) code))

theorem IsDashed.exists_word {text : String} (h : IsDashed text code) :
    ∃ first more, code = .token (.word first) more ∧ isName first = true ∧ first ≠ "" := by
  cases h with
  | word hname hnonempty => exact ⟨_, _, rfl, hname, hnonempty⟩
  | dash _ hfirst hnonempty _ => exact ⟨_, _, rfl, hfirst, hnonempty⟩

/-- A name is a word that is gone on with up to code that does not go on with it. -/
theorem IsDashed.dashed_eq {text : String} (h : IsDashed text code)
    (hrest : ∀ isJoined next more, rest ≠ .token (.sign '-' isJoined) (.token (.word next) more)) :
    ∃ first more, code = .token (.word first) more ∧ isName first = true ∧
      ∀ before, dashed (before ++ first) (more ++ rest) = (before ++ text, rest) := by
  induction h with
  | @word name hname hnonempty =>
      refine ⟨name, .done, rfl, hname, fun before => ?_⟩
      rw [done_append]
      unfold dashed
      split
      case h_1 => exact absurd rfl (hrest _ _ _)
      case h_2 => rfl
  | @dash first _ _ isJoined hfirst _ _ ih =>
      obtain ⟨next, more, rfl, hnext, hmore⟩ := ih
      refine ⟨first, _, rfl, hfirst, fun before => ?_⟩
      rw [token_append, token_append, dashed, if_pos hnext, hmore]
      simp [String.append_assoc]

/-- The name of a property is read up to the colon. -/
theorem IsDashed.property?_eq {text : String} (h : IsDashed text code) (isJoined : Bool)
    (rest : Code) : property? (code ++ .token (.sign ':' isJoined) rest) = some (text, rest) := by
  have hfrom : ∃ first more, code = .token (.word first) more ∧ isName first = true ∧
      ∀ before, propertyFrom? (before ++ first) (more ++ .token (.sign ':' isJoined) rest) =
        some (before ++ text, .token (.sign ':' isJoined) rest) := by
    induction h with
    | @word name hname hnonempty =>
        exact ⟨name, .done, rfl, hname, fun before => by simp [propertyFrom?]⟩
    | @dash first _ _ isDashJoined hfirst _ _ ih =>
        obtain ⟨next, more, rfl, hnext, hmore⟩ := ih
        refine ⟨first, _, rfl, hfirst, fun before => ?_⟩
        rw [token_append, token_append, propertyFrom?, if_pos hnext, hmore]
        simp [String.append_assoc]
  obtain ⟨first, more, rfl, hfirst, hmore⟩ := hfrom
  have hproperty := hmore ""
  rw [String.empty_append] at hproperty
  rw [token_append, property?, if_pos hfirst, hproperty]
  simp

/-! ## Single values -/

/-- The digits of a colour. -/
def AreDigits (digits : String) : Prop := ∀ c ∈ digits.toList, isHexDigit c = true

/-- The code is a number without a sign before it. -/
inductive IsUnsigned : String → Code → Prop
  | number (spelling : String) : IsUnsigned spelling (.token (.number spelling) .done)
  | percentage (spelling : String) (isJoined : Bool) :
      IsUnsigned (spelling ++ "%") (.token (.number spelling) (.token (.sign '%' isJoined) .done))

/-- The code is a value, or a call with some code in its brackets. -/
inductive IsPiece : Code → Piece → Prop
  | name {text : String} {code : Code} (h : IsDashed text code) : IsPiece code (.plain text)
  | number {text : String} {code : Code} (h : IsUnsigned text code) : IsPiece code (.plain text)
  | negative {text : String} {code : Code} (isJoined : Bool) (h : IsUnsigned text code) :
      IsPiece (.token (.sign '-' isJoined) code) (.plain ("-" ++ text))
  | wordColor {digits : String} (isJoined : Bool) (h : AreDigits digits) :
      IsPiece (.token (.sign '#' isJoined) (.token (.word digits) .done)) (.plain ("#" ++ digits))
  | numberColor {digits : String} (isJoined : Bool) (h : AreDigits digits) :
      IsPiece (.token (.sign '#' isJoined) (.token (.number digits) .done)) (.plain ("#" ++ digits))
  | text (contents : String) : IsPiece (.token (.text contents) .done) (.plain (quoted contents))
  | important (isJoined : Bool) :
      IsPiece (.token (.sign '!' isJoined) (.token (.word "important") .done)) (.plain "!important")
  | call {name : String} {code : Code} (h : IsDashed name code) (arguments : Code) :
      IsPiece (code ++ .group .round arguments .done) (.call name arguments)

theorem piece_name {text : String} (h : IsDashed text code) (hrest : goesOn rest = false) :
    piece (code ++ rest) = .ok (.plain text, rest) := by
  have hends (isJoined : Bool) (next : String) (more : Code) :
      rest ≠ .token (.sign '-' isJoined) (.token (.word next) more) := by
    rintro rfl
    cases hrest
  obtain ⟨first, more, rfl, hfirst, hdashed⟩ := h.dashed_eq hends
  have hname := hdashed ""
  rw [String.empty_append, String.empty_append] at hname
  simp only [token_append, piece, hfirst, if_true, named, hname]
  split
  case h_1 heq =>
    obtain ⟨-, rfl⟩ := Prod.mk.inj heq
    cases hrest
  case h_2 heq =>
    cases heq
    rfl

theorem piece_call {name : String} (h : IsDashed name code) (arguments rest : Code) :
    piece (code ++ .group .round arguments rest) = .ok (.call name arguments, rest) := by
  have hends (isJoined : Bool) (next : String) (more : Code) : Code.group .round arguments rest ≠
      .token (.sign '-' isJoined) (.token (.word next) more) := nofun
  obtain ⟨first, more, rfl, hfirst, hdashed⟩ := h.dashed_eq hends
  have hname := hdashed ""
  rw [String.empty_append, String.empty_append] at hname
  simp only [token_append, piece, hfirst, if_true, named, hname]

/-- A number is read with its percent sign. -/
theorem number?_of_isUnsigned {text : String} (h : IsUnsigned text code)
    (hrest : goesOn rest = false) :
    ∃ spelling behind, code ++ rest = .token (.number spelling) behind ∧
      ∀ before, percentage (before ++ spelling, behind) = (.plain (before ++ text), rest) := by
  cases h with
  | number =>
      refine ⟨text, rest, rfl, fun before => ?_⟩
      unfold percentage
      split
      case h_1 heq =>
        obtain ⟨-, rfl⟩ := Prod.mk.inj heq
        cases hrest
      case h_2 heq =>
        cases heq
        rfl
  | percentage spelling isJoined =>
      exact ⟨spelling, _, rfl, fun before => by rw [← String.append_assoc]; rfl⟩

/-- A word of hexadecimal digits is not reserved. -/
theorem isName_of_areDigits {digits : String} (h : AreDigits digits) : isName digits = true := by
  have hreserved : ∀ word ∈ reservedWords, word.toList.all isHexDigit = false := by decide
  by_cases hmem : digits ∈ reservedWords
  · have hall : digits.toList.all isHexDigit = true := List.all_eq_true.mpr h
    rw [hreserved _ hmem] at hall
    cases hall
  · simpa [isName] using hmem

theorem color_of_areDigits {digits : String} (h : AreDigits digits) (rest : Code) :
    color digits rest = .ok (.plain ("#" ++ digits), rest) := by
  rw [color, if_pos (List.all_eq_true.mpr h)]

theorem colorFrom_of_areDigits {digits : String} (h : AreDigits digits)
    (hrest : beginsWithWord rest = false) :
    colorFrom digits rest = .ok (.plain ("#" ++ digits), rest) := by
  unfold colorFrom
  split
  case h_1 => cases hrest
  case h_2 => exact color_of_areDigits h rest

/-- A value is taken from the beginning of code, and nothing else is. -/
theorem piece_of_isPiece {found : Piece} (h : IsPiece code found) (hrest : goesOn rest = false)
    (hcolor : isNumberColor code = true → beginsWithWord rest = false) :
    piece (code ++ rest) = .ok (found, rest) := by
  cases h with
  | name h => exact piece_name h hrest
  | number h =>
      obtain ⟨spelling, behind, hcode, hpercentage⟩ := number?_of_isUnsigned h hrest
      have hnumber := hpercentage ""
      rw [String.empty_append, String.empty_append] at hnumber
      simp only [hcode, piece, numeric?, number?, Option.map_some, hnumber]
  | negative isJoined h =>
      obtain ⟨spelling, behind, hcode, hpercentage⟩ := number?_of_isUnsigned h hrest
      rw [token_append, hcode]
      simp [piece, numeric?, number?, hpercentage]
  | wordColor isJoined h =>
      simp only [token_append, done_append, piece, colorAfterHash, isName_of_areDigits h, if_true,
        color_of_areDigits h]
  | numberColor isJoined h => exact colorFrom_of_areDigits h (hcolor rfl)
  | text contents => rfl
  | important isJoined => rfl
  | call h arguments =>
      rw [append_assoc]
      exact piece_call h arguments rest

/-! ## What begins with a value -/

theorem IsPiece.goesOn_append {found : Piece} (h : IsPiece code found) (rest : Code) :
    goesOn (code ++ rest) = false := by
  cases h with
  | name h | call h _ =>
      obtain ⟨_, _, rfl, -, -⟩ := h.exists_word
      rfl
  | number h => cases h <;> rfl
  | negative _ h => cases h <;> rfl
  | wordColor | numberColor | text | important => rfl

theorem IsPiece.beginsWithWord_append {found : Piece} (h : IsPiece code found) (rest : Code) :
    beginsWithWord (code ++ rest) = beginsWithWord code := by
  cases h with
  | name h | call h _ =>
      obtain ⟨_, _, rfl, -, -⟩ := h.exists_word
      rfl
  | number h => cases h <;> rfl
  | negative _ h => cases h <;> rfl
  | wordColor | numberColor | text | important => rfl

theorem IsPiece.exists_word {found : Piece} (h : IsPiece code found)
    (hword : beginsWithWord code = true) :
    ∃ word more, code = .token (.word word) more ∧ isName word = true ∧ word ≠ "" := by
  cases h with
  | name h => exact h.exists_word
  | call h _ =>
      obtain ⟨word, more, rfl, hname, hnonempty⟩ := h.exists_word
      exact ⟨word, _, rfl, hname, hnonempty⟩
  | number h => cases h <;> cases hword
  | negative | wordColor | numberColor | text | important => cases hword

theorem IsPiece.eq_numberColor {found : Piece} (h : IsPiece code found)
    (hcolor : isNumberColor code = true) : ∃ isJoined digits,
      code = .token (.sign '#' isJoined) (.token (.number digits) .done) ∧
        found = .plain ("#" ++ digits) := by
  cases h with
  | name h | call h _ =>
      obtain ⟨_, _, rfl, -, -⟩ := h.exists_word
      cases hcolor
  | number h => cases h <;> cases hcolor
  | numberColor isJoined h => exact ⟨isJoined, _, rfl, rfl⟩
  | negative | wordColor | text | important => cases hcolor

/-- A word goes on with a colour whose digits are those of a number, whether they are then
hexadecimal or not. -/
theorem piece_numberColor (isJoined : Bool) (digits : String) {word : String}
    (hword : isName word = true) (rest : Code) :
    piece (.token (.sign '#' isJoined) (.token (.number digits) (.token (.word word) rest))) =
      color (digits ++ word) rest := by
  simp only [piece, colorAfterHash, colorFrom, hword, if_true]

/-! ## Several values -/

/-- Read by itself, the code is the value. -/
def Alone (code : Code) (value : Value) : Prop :=
  ∃ found, piece code = .ok (found, .done) ∧ found.value = .ok value

def isComma : Code → Bool
  | .token (.sign ',' _) .done => true
  | _ => false

/-- No value that begins with a word stands directly behind a colour whose digits are those of a
number. -/
def ColorsEnd (codes : List Code) : Prop :=
  codes.IsChain fun first second => isNumberColor first = true → beginsWithWord second = false

/-- The code is a value.  A call has values and commas in its brackets, where colours end too. -/
inductive IsValue : Code → Prop
  | plain {code : Code} {text : String} (h : IsPiece code (.plain text)) : IsValue code
  | call {name : String} {code : Code} {codes : List Code} (h : IsDashed name code)
      (hcodes : ∀ inner ∈ codes, isComma inner = false → IsValue inner)
      (hcolors : ColorsEnd codes) :
      IsValue (code ++ .group .round (concat codes) .done)

theorem IsValue.exists_piece (h : IsValue code) : ∃ found, IsPiece code found := by
  cases h with
  | plain h => exact ⟨_, h⟩
  | call h _ _ => exact ⟨_, .call h _⟩

/-- The code is a comma or begins a value. -/
def IsEntry (code : Code) : Prop := isComma code = true ∨ ∃ found, IsPiece code found

theorem IsValue.isEntry (h : IsValue code) : IsEntry code := .inr h.exists_piece

theorem exists_comma (h : isComma code = true) :
    ∃ isJoined, code = .token (.sign ',' isJoined) .done := by
  unfold isComma at h
  split at h
  · exact ⟨_, rfl⟩
  · cases h

theorem IsEntry.goesOn_append (h : IsEntry code) (rest : Code) : goesOn (code ++ rest) = false := by
  obtain hcomma | ⟨found, hpiece⟩ := h
  · obtain ⟨isJoined, rfl⟩ := exists_comma hcomma
    rfl
  · exact hpiece.goesOn_append rest

theorem IsEntry.beginsWithWord_append (h : IsEntry code) (rest : Code) :
    beginsWithWord (code ++ rest) = beginsWithWord code := by
  obtain hcomma | ⟨found, hpiece⟩ := h
  · obtain ⟨isJoined, rfl⟩ := exists_comma hcomma
    rfl
  · exact hpiece.beginsWithWord_append rest

section

variable {codes : List Code} {first : Code}

theorem goesOn_concat (hcodes : ∀ code ∈ codes, IsEntry code) (hrest : goesOn rest = false) :
    goesOn (concat codes ++ rest) = false := by
  cases codes with
  | nil => exact hrest
  | cons first codes =>
      rw [concat_cons, append_assoc]
      exact (hcodes first (.head _)).goesOn_append _

/-- What stands behind a colour in a list that keeps to it. -/
theorem ColorsEnd.beginsWithWord_concat (h : ColorsEnd (first :: codes))
    (hcodes : ∀ code ∈ codes, IsEntry code) (hrest : beginsWithWord rest = false)
    (hcolor : isNumberColor first = true) : beginsWithWord (concat codes ++ rest) = false := by
  cases codes with
  | nil => exact hrest
  | cons second codes =>
      rw [concat_cons, append_assoc, (hcodes second (.head _)).beginsWithWord_append]
      exact (List.isChain_cons_cons.mp h).1 hcolor

/-- A value in a list that keeps to it is read, and what stands behind it is left. -/
theorem piece_concat {found : Piece} (h : IsPiece first found)
    (hcolors : ColorsEnd (first :: codes))
    (hcodes : ∀ code ∈ codes, IsEntry code) (hgoesOn : goesOn rest = false)
    (hword : beginsWithWord rest = false) :
    piece (first ++ (concat codes ++ rest)) = .ok (found, concat codes ++ rest) :=
  piece_of_isPiece h (goesOn_concat hcodes hgoesOn) (hcolors.beginsWithWord_concat hcodes hword)

/-- A value by itself. -/
theorem IsPiece.piece_eq {found : Piece} (h : IsPiece code found) :
    piece code = .ok (found, .done) := by
  have hpiece : piece (code ++ .done) = .ok (found, .done) :=
    piece_of_isPiece h rfl fun _ => rfl
  rwa [append_done] at hpiece

theorem Alone.eq {found : Piece} {value : Value} (h : Alone code value)
    (hpiece : IsPiece code found) :
    found.value = .ok value := by
  obtain ⟨other, hother, hvalue⟩ := h
  rw [hpiece.piece_eq] at hother
  cases hother
  exact hvalue

/-! ### Arguments -/

theorem readArguments_of_piece {found : Piece} (hpiece : piece code = .ok (found, rest)) :
    readArguments code = found.value.bind fun value => (readArguments rest).map (value :: ·) := by
  rw [readArguments.eq_def]
  split
  case h_1 => cases hpiece
  case h_2 => cases hpiece
  case h_3 =>
    split
    case h_1 heq => rw [hpiece] at heq; cases heq
    case h_2 heq =>
      rw [hpiece] at heq
      cases heq
      cases readArguments rest <;> rfl
    case h_3 name inner _ heq =>
      rw [hpiece] at heq
      cases heq
      rw [Piece.value]
      cases readArguments inner with
      | error refusal => rfl
      | ok arguments => cases readArguments rest <;> rfl

theorem readArguments_comma {isJoined : Bool} {values : List Value}
    (hrest : readArguments rest = .ok values) :
    readArguments (.token (.sign ',' isJoined) rest) = .ok (.comma :: values) := by
  rw [readArguments, hrest]
  rfl

/-- The value is a comma, or what the code is by itself. -/
def IsArgument (code : Code) (value : Value) : Prop :=
  if isComma code then value = .comma else Alone code value

/-- Values and commas in brackets are read as what they are by themselves. -/
theorem readArguments_concat (hcolors : ColorsEnd codes)
    (hcodes : ∀ code ∈ codes, isComma code = false →
      (∃ found, IsPiece code found) ∧ ∃ value, Alone code value) :
    ∃ values, readArguments (concat codes) = .ok values ∧ List.Forall₂ IsArgument codes values := by
  induction codes with
  | nil => exact ⟨[], by rw [concat_nil, readArguments], .nil⟩
  | cons first codes ih =>
      have hothers := fun code hcode => hcodes code (List.mem_cons_of_mem first hcode)
      obtain ⟨values, hvalues, halone⟩ := ih (List.isChain_of_isChain_cons hcolors) hothers
      cases hcomma : isComma first with
      | true =>
          obtain ⟨isJoined, rfl⟩ := exists_comma hcomma
          exact ⟨_, readArguments_comma hvalues, .cons (by rw [IsArgument, if_pos hcomma]) halone⟩
      | false =>
          obtain ⟨⟨found, hfound⟩, value, hvalue⟩ := hcodes first (.head _) hcomma
          have hentries (code : Code) (hcode : code ∈ codes) : IsEntry code := by
            cases hother : isComma code with
            | true => exact .inl hother
            | false => exact .inr (hothers code hcode hother).1
          have hpiece :
              piece (first ++ (concat codes ++ .done)) = .ok (found, concat codes ++ .done) :=
            piece_concat hfound hcolors hentries rfl rfl
          rw [append_done] at hpiece
          refine
            ⟨value :: values, ?_, .cons (by rwa [IsArgument, if_neg (by simp [hcomma])]) halone⟩
          rw [concat_cons, readArguments_of_piece hpiece, hvalue.eq hfound, hvalues]
          rfl

/-- A call of such arguments is by itself the call of what they are by themselves. -/
theorem alone_call {name : String} (h : IsDashed name code) (hcolors : ColorsEnd codes)
    (hcodes : ∀ code ∈ codes, isComma code = false →
      (∃ found, IsPiece code found) ∧ ∃ value, Alone code value) :
    ∃ arguments, Alone (code ++ .group .round (concat codes) .done) (.call name arguments) ∧
      List.Forall₂ IsArgument codes arguments := by
  obtain ⟨values, hvalues, halone⟩ := readArguments_concat hcolors hcodes
  exact ⟨values, ⟨_, (IsPiece.call h _).piece_eq, by rw [Piece.value, hvalues]; rfl⟩, halone⟩

theorem IsValue.exists_alone (h : IsValue code) : ∃ value, Alone code value := by
  induction h with
  | @plain code text h => exact ⟨.plain text, _, h.piece_eq, rfl⟩
  | call h hcodes hcolors ih =>
      obtain ⟨arguments, halone, -⟩ := alone_call h hcolors fun inner hinner hcomma =>
        ⟨(hcodes inner hinner hcomma).exists_piece, ih inner hinner hcomma⟩
      exact ⟨_, halone⟩

/-! ### Values of a property -/

theorem readValues_of_piece {found : Piece} (hpiece : piece code = .ok (found, rest)) :
    readValues code = found.value.bind fun value =>
      (readValues rest).map fun read => (value :: read.1, read.2) := by
  rw [readValues.eq_def]
  split
  case h_1 => cases hpiece
  case h_2 => cases hpiece
  case h_3 =>
    split
    case h_1 heq => rw [hpiece] at heq; cases heq
    case h_2 heq =>
      rw [hpiece] at heq
      cases heq
      cases found.value with
      | error refusal => rfl
      | ok value => cases readValues rest <;> rfl

/-- Values in a row are read as what they are by themselves. -/
theorem readValues_concat (hcodes : ∀ code ∈ codes, IsValue code) (hcolors : ColorsEnd codes)
    (hrest : readValues rest = .ok ([], rest)) (hgoesOn : goesOn rest = false)
    (hword : beginsWithWord rest = false) :
    ∃ values, readValues (concat codes ++ rest) = .ok (values, rest) ∧
      List.Forall₂ Alone codes values := by
  induction codes with
  | nil => exact ⟨[], hrest, .nil⟩
  | cons first codes ih =>
      obtain ⟨hfirst, hothers⟩ := List.forall_mem_cons.mp hcodes
      obtain ⟨values, hvalues, halone⟩ := ih hothers (List.isChain_of_isChain_cons hcolors)
      obtain ⟨value, hvalue⟩ := hfirst.exists_alone
      obtain ⟨found, hfound⟩ := hfirst.exists_piece
      have hpiece := piece_concat hfound hcolors (fun code hcode => (hothers code hcode).isEntry)
        hgoesOn hword
      refine ⟨value :: values, ?_, .cons hvalue halone⟩
      rw [concat_cons, append_assoc, readValues_of_piece hpiece, hvalue.eq hfound, hvalues]
      rfl

theorem exists_of_readValues {found : Piece} {values : List Value} {last : Code}
    (hpiece : piece code = .ok (found, rest)) (h : readValues code = .ok (values, last)) :
    ∃ value more, found.value = .ok value ∧ readValues rest = .ok (more, last) ∧
      values = value :: more := by
  rw [readValues_of_piece hpiece] at h
  cases hvalue : found.value with
  | error refusal =>
      rw [hvalue] at h
      cases h
  | ok value =>
      cases hmore : readValues rest with
      | error refusal =>
          rw [hvalue, hmore] at h
          cases h
      | ok read =>
          rw [hvalue, hmore] at h
          cases h
          exact ⟨value, read.1, rfl, rfl, rfl⟩

theorem readValues_of_refusal {refusal : Refusal} (hpiece : piece code = .error refusal)
    (hdone : code ≠ .done) (hends : ∀ isJoined rest, code ≠ .token (.sign ';' isJoined) rest) :
    readValues code = .error refusal := by
  rw [readValues.eq_def]
  split
  case h_1 => exact absurd rfl hdone
  case h_2 => exact absurd rfl (hends _ _)
  case h_3 =>
    split
    case h_1 heq =>
      rw [hpiece] at heq
      cases heq
      rfl
    case h_2 heq => rw [hpiece] at heq; cases heq

/-- A colour that goes on with a word is not the colour that it is by itself. -/
theorem beginsWithWord_of_readValues {found : Piece} {value : Value} {values : List Value}
    {last : Code} (hfirst : IsPiece first found) (hvalue : Alone first value)
    (hword : ∀ word more, rest = .token (.word word) more → isName word = true ∧ word ≠ "")
    (h : readValues (first ++ rest) = .ok (value :: values, last))
    (hcolor : isNumberColor first = true) : beginsWithWord rest = false := by
  unfold beginsWithWord
  split
  case h_2 => rfl
  case h_1 word more =>
    obtain ⟨hname, hnonempty⟩ := hword word more rfl
    obtain ⟨isJoined, digits, rfl, rfl⟩ := hfirst.eq_numberColor hcolor
    have hpiece := piece_numberColor isJoined digits hname more
    -- the colour takes the word: it is refused for it, or longer than it is by itself
    cases hmerged : color (digits ++ word) more with
    | error refusal =>
        rw [hmerged] at hpiece
        rw [token_append, token_append, done_append,
          readValues_of_refusal hpiece nofun nofun] at h
        cases h
    | ok read =>
        rw [hmerged] at hpiece
        obtain ⟨other, _, hother, -, heq⟩ := exists_of_readValues hpiece h
        unfold color at hmerged
        split at hmerged
        · cases hmerged
          cases hother
          cases hvalue.eq hfirst
          have htext : digits = digits ++ word := by
            simp only [Value.plain, List.cons.injEq, Value.mk.injEq] at heq
            simpa using heq.1.1
          have hlength := congrArg String.length htext
          exact absurd (by simpa [String.length_append] using hlength) hnonempty
        · cases hmerged

/-- Values in a row begin with a word only if it is that of a name. -/
theorem isName_of_concat {word : String} {more : Code} (hcodes : ∀ code ∈ codes, IsValue code)
    (hword : beginsWithWord rest = false) (h : concat codes ++ rest = .token (.word word) more) :
    isName word = true ∧ word ≠ "" := by
  cases codes with
  | nil =>
      rw [concat_nil, done_append] at h
      rw [h] at hword
      cases hword
  | cons first codes =>
      obtain ⟨found, hfirst⟩ := (hcodes first (.head _)).exists_piece
      have hbegins := hfirst.beginsWithWord_append (concat codes ++ rest)
      rw [concat_cons, append_assoc] at h
      rw [h] at hbegins
      obtain ⟨_, _, rfl, hname, hnonempty⟩ := hfirst.exists_word hbegins.symm
      cases h
      exact ⟨hname, hnonempty⟩

/-- Where values in a row are read as what they are by themselves, colours end. -/
theorem colorsEnd_of_readValues {values : List Value} {last : Code}
    (hcodes : ∀ code ∈ codes, IsValue code) (hgoesOn : goesOn rest = false)
    (hword : beginsWithWord rest = false)
    (h : readValues (concat codes ++ rest) = .ok (values, last))
    (hvalues : List.Forall₂ Alone codes values) : ColorsEnd codes := by
  induction codes generalizing values with
  | nil => exact .nil
  | cons first codes ih =>
      obtain ⟨hfirst, hothers⟩ := List.forall_mem_cons.mp hcodes
      obtain _ | ⟨hvalue, hmore⟩ := hvalues
      obtain ⟨found, hfound⟩ := hfirst.exists_piece
      rw [concat_cons, append_assoc] at h
      -- only where the first value ends are the others read from where they begin
      have hends : isNumberColor first = true → beginsWithWord (concat codes ++ rest) = false :=
        beginsWithWord_of_readValues hfound hvalue (fun _ _ => isName_of_concat hothers hword) h
      have hgoesOnBehind : goesOn (concat codes ++ rest) = false :=
        goesOn_concat (fun code hcode => (hothers code hcode).isEntry) hgoesOn
      obtain ⟨_, others, _, hread, heq⟩ :=
        exists_of_readValues (piece_of_isPiece hfound hgoesOnBehind hends) h
      cases heq
      have hbehind := ih hothers hread hmore
      cases codes with
      | nil => exact .singleton first
      | cons second codes =>
          refine List.isChain_cons_cons.mpr ⟨fun hcolor => ?_, hbehind⟩
          obtain ⟨other, hsecond⟩ := (hothers second (.head _)).exists_piece
          have hbegins := hends hcolor
          rwa [concat_cons, append_assoc, hsecond.beginsWithWord_append] at hbegins

end

/-! ## Declarations -/

/-- The code behind a declaration, and what is left of it without its semicolon. -/
inductive Ends : Code → Code → Prop
  | done : Ends .done .done
  | semicolon {isJoined : Bool} {rest : Code} : Ends (.token (.sign ';' isJoined) rest) rest

namespace Ends

variable {last : Code}

theorem readValues_eq (h : Ends rest last) : readValues rest = .ok ([], rest) := by
  cases h <;> rw [readValues]

theorem goesOn_eq (h : Ends rest last) : goesOn rest = false := by
  cases h <;> rfl

theorem beginsWithWord_eq (h : Ends rest last) : beginsWithWord rest = false := by
  cases h <;> rfl

theorem afterSemicolon_eq (h : Ends rest last) : afterSemicolon rest = last := by
  cases h <;> rfl

end Ends

theorem readDeclaration_eq {name : String} {values : List Value} {last behind : Code}
    (isJoined : Bool)
    (hname : IsDashed name code) (hends : Ends behind last)
    (hvalues : readValues rest = .ok (values, behind)) (hnonempty : values ≠ []) :
    readDeclaration (code ++ .token (.sign ':' isJoined) rest) = .ok (⟨name, values⟩, last) := by
  obtain ⟨value, values, rfl⟩ := List.exists_cons_of_ne_nil hnonempty
  rw [readDeclaration, hname.property?_eq]
  simp only [hvalues, hends.afterSemicolon_eq]

theorem exists_of_readDeclaration {name : String} {declaration : Declaration} {last : Code}
    {isJoined : Bool} (hname : IsDashed name code)
    (h : readDeclaration (code ++ .token (.sign ':' isJoined) rest) = .ok (declaration, last)) :
    ∃ behind, readValues rest = .ok (declaration.values, behind) := by
  rw [readDeclaration, hname.property?_eq] at h
  simp only at h
  split at h
  · cases h
  · cases h
  · rename_i behind _ hvalues
    cases h
    exact ⟨behind, hvalues⟩

/-- Behind the name of a property and a colon, values are accepted as a declaration with one value
for each that is written, each of them what it is by itself, exactly if no value that begins with a
word stands directly behind a colour whose digits are those of a number.  As arguments behind the
name of a call, with commas or without, they are what they are by themselves if none of them does
so. -/
theorem readDeclaration_boundaries {name : String} {head : Code} {codes : List Code}
    (hname : IsDashed name head) :
    (∀ (isJoined : Bool) (ending last : Code),
      codes ≠ [] → (∀ code ∈ codes, IsValue code) → Ends ending last →
      ((∃ values, List.Forall₂ Alone codes values ∧
        readDeclaration (head ++ .token (.sign ':' isJoined) (concat codes ++ ending)) =
          .ok (⟨name, values⟩, last)) ↔ ColorsEnd codes)) ∧
    ((∀ code ∈ codes, isComma code = false → IsValue code) → ColorsEnd codes →
      ∃ arguments, List.Forall₂ IsArgument codes arguments ∧
        Alone (head ++ .group .round (concat codes) .done) (.call name arguments)) := by
  refine ⟨fun isJoined ending last hnonempty hvalues hends => ?_, fun hcodes hcolors => ?_⟩
  · constructor
    · rintro ⟨values, halone, hread⟩
      obtain ⟨behind, hread⟩ := exists_of_readDeclaration hname hread
      exact colorsEnd_of_readValues hvalues hends.goesOn_eq hends.beginsWithWord_eq hread halone
    · intro hcolors
      obtain ⟨values, hread, halone⟩ := readValues_concat hvalues hcolors hends.readValues_eq
        hends.goesOn_eq hends.beginsWithWord_eq
      refine ⟨values, halone, readDeclaration_eq isJoined hname hends hread ?_⟩
      rintro rfl
      exact hnonempty (List.forall₂_nil_right_iff.mp halone)
  · obtain ⟨arguments, halone, harguments⟩ := alone_call hname hcolors fun code hcode hcomma =>
      ⟨(hcodes code hcode hcomma).exists_piece, (hcodes code hcode hcomma).exists_alone⟩
    exact ⟨arguments, harguments, halone⟩

/-- The width of a border. -/
def width : Code := .token (.number "1px") .done

/-- A colour whose digits are those of a number. -/
def grey : Code := sign '#' ++ .token (.number "333") .done

/-- The style of a border. -/
def solid : Code := word "solid"

theorem isPiece_width : IsPiece width (.plain "1px") := .number (.number "1px")

theorem isPiece_grey : IsPiece grey (.plain "#333") := by
  have hdigits : "333".toList.all isHexDigit = true := by decide
  exact .numberColor false (List.all_eq_true.mp hdigits)

theorem isDashed_solid : IsDashed "solid" solid := .word (by decide +kernel) (by decide)

/-- A style before a width and a colour is kept apart from them. -/
theorem readDeclaration_border :
    (∃ values, List.Forall₂ Alone [solid, width, grey] values ∧
      readDeclaration (word "border" ++ .token (.sign ':' false)
        (concat [solid, width, grey] ++ sign ';')) = .ok (⟨"border", values⟩, .done)) ∧
    ∃ arguments, List.Forall₂ IsArgument [grey, sign ',', solid] arguments ∧
      Alone (solid ++ .group .round (concat [grey, sign ',', solid]) .done)
        (.call "solid" arguments) := by
  have hborder : IsDashed "border" (word "border") := .word (by decide +kernel) (by decide)
  have hvalues : ∀ code ∈ [solid, width, grey], IsValue code := by
    simp only [List.forall_mem_cons, List.not_mem_nil, false_imp_iff, implies_true, and_true]
    exact ⟨.plain (.name isDashed_solid), .plain isPiece_width, .plain isPiece_grey⟩
  have houterEnds : ColorsEnd [solid, width, grey] :=
    .cons_cons nofun (.cons_cons nofun (.singleton grey))
  have hinner : ∀ code ∈ [grey, sign ',', solid], isComma code = false → IsValue code := by
    simp only [List.forall_mem_cons, List.not_mem_nil, false_imp_iff, implies_true, and_true]
    exact ⟨fun _ => .plain isPiece_grey, nofun, fun _ => .plain (.name isDashed_solid)⟩
  have hinnerEnds : ColorsEnd [grey, sign ',', solid] :=
    .cons_cons (fun _ => rfl) (.cons_cons nofun (.singleton solid))
  have hends := (readDeclaration_boundaries hborder).1 false (sign ';') .done (List.cons_ne_nil _ _)
    hvalues .semicolon
  exact ⟨hends.mpr houterEnds, (readDeclaration_boundaries isDashed_solid).2 hinner hinnerEnds⟩

/-- In another order the style is taken for digits of the colour, and the declaration is refused. -/
theorem solid_absorbed :
    (∀ code ∈ [width, grey, solid], IsValue code) ∧
      readDeclaration (word "border" ++ .token (.sign ':' false)
        (concat [width, grey, solid] ++ sign ';')) =
        .error (.fault (.notHexadecimal "333solid" false)) := by
  refine ⟨?_, ?_⟩
  · simp only [List.forall_mem_cons, List.not_mem_nil, false_imp_iff, implies_true, and_true]
    exact ⟨.plain isPiece_width, .plain isPiece_grey, .plain (.name isDashed_solid)⟩
  · have hborder : IsDashed "border" (word "border") := .word (by decide +kernel) (by decide)
    have hcolor : readValues (concat [grey, solid] ++ sign ';') =
        .error (.fault (.notHexadecimal "333solid" false)) :=
      readValues_of_refusal (by decide +kernel) nofun nofun
    have hwidth : piece (concat [width, grey, solid] ++ sign ';') =
        .ok (.plain "1px", concat [grey, solid] ++ sign ';') :=
      piece_of_isPiece isPiece_width rfl nofun
    have hvalues := readValues_of_piece hwidth
    rw [hcolor] at hvalues
    rw [readDeclaration, hborder.property?_eq]
    simp only [hvalues]
    rfl

end Storyboard.Sheet
