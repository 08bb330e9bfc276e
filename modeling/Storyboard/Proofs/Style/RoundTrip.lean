import Storyboard.Proofs.Style.Declaration

/-!
# Written styles are read back

A style that has been read from a text is read again from its own written form (`parse_render`).
The text may be another one: values are spaced anew, and declarations that were replaced are gone.
What the two texts share is that every property is a declaration (`Declared`), which is an invariant
of `readTokens`.  The written form of a declared style is cut into the lexemes of its declarations,
and these set its properties one after the other, in the order they have in it.
-/

namespace Storyboard.Style

open Storyboard.Text

variable {style : Style}

/-! ## Setting properties in their order -/

theorem insertEntry_eq_append {property value : String} {entries : List (String × String)}
    (h : ∀ entry ∈ entries, entry.1 < property) :
    insertEntry property value entries = entries ++ [(property, value)] := by
  induction entries with
  | nil => rfl
  | cons entry entries ih =>
      obtain ⟨name, old⟩ := entry
      have hhead : name < property := h (name, old) List.mem_cons_self
      have hrest : ∀ entry ∈ entries, entry.1 < property :=
        fun entry hentry => h entry (List.mem_cons_of_mem _ hentry)
      rw [insertEntry, if_neg (String.lt_asymm hhead), if_pos hhead, ih hrest, List.cons_append]

theorem entries_foldl_set {entries : List (String × String)}
    (h : NamesIncrease (style.entries ++ entries)) :
    (entries.foldl (fun style (property, value) => style.set property value) style).entries =
      style.entries ++ entries := by
  induction entries generalizing style with
  | nil => simp
  | cons entry entries ih =>
      obtain ⟨property, value⟩ := entry
      -- the next property comes after all that are there, so it is put at the end
      have hbefore : ∀ earlier ∈ style.entries, earlier.1 < property :=
        fun earlier hearlier =>
          (List.pairwise_append.mp h).2.2 earlier hearlier (property, value) List.mem_cons_self
      have hset : (style.set property value).entries = style.entries ++ [(property, value)] :=
        insertEntry_eq_append hbefore
      have hincreasing : NamesIncrease ((style.set property value).entries ++ entries) := by
        rw [hset, List.append_assoc]
        exact h
      rw [List.foldl_cons, ih hincreasing, hset, List.append_assoc]
      rfl

theorem eq_of_entries_eq {first second : Style} (h : first.entries = second.entries) :
    first = second := by
  cases first
  cases second
  cases h
  rfl

/-- Setting the properties of a style one after the other makes it again. -/
theorem ofList_entries (style : Style) : ofList style.entries = style := by
  apply eq_of_entries_eq
  have hincreasing : NamesIncrease (empty.entries ++ style.entries) := style.increasing
  exact entries_foldl_set hincreasing

/-! ## Declared styles -/

/-- Every property is one that a declaration may set. -/
def Declared (style : Style) : Prop :=
  ∀ entry ∈ style.entries, ∃ declaration : Declaration, declaration.entry = entry

/-- What has been read of a declaration may become one. -/
def Reading.Begun : Reading → Prop
  | .ready => True
  | .named property =>
      ∃ name : Lexeme, name.kind = .identifier ∧ String.ofList name.text = property
  | .within property value last => ∃ (name : Lexeme) (lexemes : List Lexeme),
      name.kind = .identifier ∧ String.ofList name.text = property ∧
        (∀ lexeme ∈ lexemes, lexeme.InValue) ∧
        String.ofList (joined none lexemes) = value ∧ lastKind none lexemes = last

theorem Declared.empty : Declared empty :=
  fun _ hentry => absurd hentry List.not_mem_nil

/-- A declaration that ends after a lexeme of its value is one. -/
theorem Declared.set {property value : String} {kind : TokenKind} (h : Declared style)
    (hbegun : (Reading.within property value (some kind)).Begun) :
    Declared (style.set property value) := by
  obtain ⟨name, lexemes, hname, rfl, hinValue, rfl, hlast⟩ := hbegun
  have hnonempty : lexemes ≠ [] := by
    rintro rfl
    cases hlast
  intro entry hentry
  rcases mem_insertEntry hentry with rfl | hentry
  · exact ⟨⟨name, lexemes, hname, hnonempty, hinValue⟩, rfl⟩
  · exact h entry hentry

/-- A value goes on with every lexeme but a colon and a semicolon. -/
theorem Reading.Begun.append {property value : String} {last : Option TokenKind} {token : Token}
    {lexeme : Lexeme} (h : (Reading.within property value last).Begun) (htoken : token.Is lexeme)
    (hcolon : token.kind ≠ .colon) (hsemicolon : token.kind ≠ .semicolon) :
    (Reading.within property
      (value ++ (if needsSpace last token.kind then " " else "") ++ token.text)
      (some token.kind)).Begun := by
  obtain ⟨name, lexemes, hname, hproperty, hinValue, rfl, rfl⟩ := h
  refine ⟨name, lexemes ++ [lexeme], hname, hproperty, ?_, ?_, ?_⟩
  · intro other hother
    rcases List.mem_append.mp hother with hother | hother
    · exact hinValue other hother
    · rw [List.mem_singleton.mp hother, Lexeme.InValue, ← htoken.kind_eq]
      exact ⟨hcolon, hsemicolon⟩
  · rw [joined_append_singleton, String.ofList_append, String.ofList_append, ofList_gap,
      htoken.kind_eq, htoken.text_eq]
  · rw [lastKind_append_singleton, htoken.kind_eq]

/-- Reading tokens makes declared styles only. -/
theorem declared_of_readTokens {stage : Reading} {tokens : List Token} {lexemes : List Lexeme}
    {result : Style} (h : readTokens stage style tokens = .ok result)
    (htokens : List.Forall₂ Token.Is tokens lexemes) (hstage : stage.Begun)
    (hstyle : Declared style) : Declared result := by
  -- the induction follows the reader; the cases that fail have no result
  fun_induction readTokens stage style tokens generalizing lexemes with
  | case1 style =>
      cases h
      exact hstyle
  | case2 => cases h
  | case3 => cases h
  | case4 property value kind style =>
      cases h
      exact hstyle.set hstage
  | case5 style token rest hkind ih =>
      cases htokens with
      | cons htoken hrest => exact ih h hrest trivial hstyle
  | case6 style token rest hkind ih =>
      cases htokens with
      | cons htoken hrest =>
          refine ih h hrest ⟨_, ?_, htoken.text_eq.symm⟩ hstyle
          rw [← htoken.kind_eq, hkind]
  | case7 => cases h
  | case8 property style token rest hkind ih =>
      cases htokens with
      | cons htoken hrest =>
          obtain ⟨name, hname, hproperty⟩ := hstage
          have hvalue : (Reading.within property "" none).Begun :=
            ⟨name, [], hname, hproperty, fun _ hmem => absurd hmem List.not_mem_nil, rfl, rfl⟩
          exact ih h hrest hvalue hstyle
  | case9 => cases h
  | case10 => cases h
  | case11 => cases h
  | case12 property value style token rest kind hkind ih =>
      cases htokens with
      | cons htoken hrest => exact ih h hrest trivial (hstyle.set hstage)
  | case13 property value style token rest last hcolon hempty hsemicolon space =>
      rename_i ih
      cases htokens with
      | cons htoken hrest =>
          -- a semicolon is taken by one of the two cases before
          have hnot : token.kind ≠ .semicolon := by
            intro hkind
            cases last with
            | none => exact hempty hkind rfl
            | some kind => exact hsemicolon kind hkind rfl
          exact ih h hrest (hstage.append htoken hcolon hnot) hstyle

theorem declared_of_parse {input : String} (h : parse input = .ok style) : Declared style := by
  rw [parse] at h
  split at h
  case h_1 => cases h
  case h_2 tokens htokens =>
    obtain ⟨lexemes, -, hlexemes⟩ := cuts_of_tokensFrom htokens
    exact declared_of_readTokens h hlexemes trivial Declared.empty

/-! ## Reading a declared style -/

theorem exists_declarations {entries : List (String × String)}
    (h : ∀ entry ∈ entries, ∃ declaration : Declaration, declaration.entry = entry) :
    ∃ declarations : List Declaration, declarations.map Declaration.entry = entries := by
  induction entries with
  | nil => exact ⟨[], rfl⟩
  | cons entry entries ih =>
      obtain ⟨declaration, hentry⟩ := h entry List.mem_cons_self
      obtain ⟨declarations, hentries⟩ :=
        ih fun other hother => h other (List.mem_cons_of_mem _ hother)
      refine ⟨declaration :: declarations, ?_⟩
      rw [List.map_cons, hentry, hentries]

/-- A written style is cut into the lexemes of its declarations. -/
theorem cuts_render (declarations : List Declaration) :
    Cuts (" ".intercalate ((declarations.map Declaration.entry).map renderEntry)).toList
      (declarations.flatMap Declaration.written) := by
  induction declarations with
  | nil => exact .done
  | cons declaration declarations ih =>
      cases declarations with
      | nil =>
          have hlast := declaration.cuts_renderEntry .done
          simpa using hlast
      | cons next declarations =>
          have hfirst := declaration.cuts_renderEntry ih.space
          simpa using hfirst

/-- Reading declarations sets their properties one after the other. -/
theorem readTokens_declarations {tokens : List Token} (style : Style)
    (declarations : List Declaration)
    (h : List.Forall₂ Token.Is tokens (declarations.flatMap Declaration.written)) :
    readTokens .ready style tokens =
      .ok ((declarations.map Declaration.entry).foldl
        (fun style (property, value) => style.set property value) style) := by
  induction declarations generalizing style tokens with
  | nil =>
      cases h
      rw [readTokens]
      rfl
  | cons declaration declarations ih =>
      rw [List.flatMap_cons] at h
      obtain ⟨later, hlater, hread⟩ := readTokens_declaration declaration h
      rw [hread, ih _ hlater]
      rfl

theorem parse_render_of_declared (h : Declared style) : parse style.render = .ok style := by
  obtain ⟨declarations, hentries⟩ := exists_declarations h
  have hcuts := cuts_render declarations
  rw [hentries] at hcuts
  obtain ⟨tokens, htokens, hlexemes⟩ := hcuts.tokensFrom 0
  have hread := readTokens_declarations empty declarations hlexemes
  rw [hentries] at hread
  rw [parse, tokenize, render, htokens]
  exact hread.trans (congrArg Except.ok (ofList_entries style))

/-- A style that has been read from a text is read back from its own written form. -/
theorem parse_render {input : String} (h : parse input = .ok style) :
    parse style.render = .ok style :=
  parse_render_of_declared (declared_of_parse h)

/-- The style of two properties, one of them with a spaced value. -/
def respacedStyle : Style :=
  (empty.set "width" "calc(10 -5, 2px)").set "color" "red"

theorem parse_render_respaced :
    parse "color: blue; width:calc( 10-5 ,2px );; color:red" = .ok respacedStyle ∧
      parse respacedStyle.render = .ok respacedStyle := by
  have hparse : parse "color: blue; width:calc( 10-5 ,2px );; color:red" = .ok respacedStyle := by
    decide +kernel
  exact ⟨hparse, parse_render hparse⟩

end Storyboard.Style
