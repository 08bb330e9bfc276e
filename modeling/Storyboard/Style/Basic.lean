/-!
# Styles

A style maps property names to values.  It is kept as the list of its pairs in increasing order of
the names, each name once, so that two styles with the same properties are the same list.
-/

namespace Storyboard

/-- The property names of a list of pairs increase strictly. -/
def NamesIncrease (entries : List (String × String)) : Prop :=
  entries.Pairwise fun first second => first.1 < second.1

theorem lookup_cons_eq_ite {κ α : Type} [BEq κ] [LawfulBEq κ] [DecidableEq κ] (key other : κ)
    (value : α) (rest : List (κ × α)) :
    ((key, value) :: rest).lookup other =
      if other = key then some value else rest.lookup other := by
  by_cases hother : other = key
  · simp [hother]
  · have hne : (other == key) = false := by simpa using hother
    rw [List.lookup_cons, hne, if_neg hother]

/-- A map from property names to values, in the order of the names. -/
structure Style where
  entries : List (String × String)
  increasing : NamesIncrease entries

namespace Style

/-! ## Sorted lists of pairs -/

/-- Puts a pair in its place, replacing a pair of the same name. -/
def insertEntry (property value : String) : List (String × String) → List (String × String)
  | [] => [(property, value)]
  | (name, old) :: rest =>
      if property < name then (property, value) :: (name, old) :: rest
      else if name < property then (name, old) :: insertEntry property value rest
      else (property, value) :: rest

theorem mem_insertEntry {property value : String} {entries : List (String × String)}
    {pair : String × String} (h : pair ∈ insertEntry property value entries) :
    pair = (property, value) ∨ pair ∈ entries := by
  induction entries with
  | nil => simpa [insertEntry] using h
  | cons head rest ih =>
      obtain ⟨name, old⟩ := head
      rw [insertEntry] at h
      split at h
      · simpa using h
      · split at h
        · rcases List.mem_cons.mp h with rfl | h
          · simp
          · rcases ih h with h | h <;> simp [h]
        · rcases List.mem_cons.mp h with rfl | h <;> simp [*]

theorem increasing_insertEntry {property value : String} {entries : List (String × String)}
    (h : NamesIncrease entries) : NamesIncrease (insertEntry property value entries) := by
  induction entries with
  | nil => simp [insertEntry, NamesIncrease]
  | cons head rest ih =>
      obtain ⟨name, old⟩ := head
      have hhead := (List.pairwise_cons.mp h).1
      have hrest := (List.pairwise_cons.mp h).2
      rw [insertEntry]
      split
      case isTrue hlt =>
        refine List.pairwise_cons.mpr ⟨fun pair hpair => ?_, h⟩
        rcases List.mem_cons.mp hpair with rfl | hpair
        · exact hlt
        · exact String.lt_trans hlt (hhead pair hpair)
      case isFalse hge =>
        split
        case isTrue hgt =>
          refine List.pairwise_cons.mpr ⟨fun pair hpair => ?_, ih hrest⟩
          rcases mem_insertEntry hpair with rfl | hpair
          · exact hgt
          · exact hhead pair hpair
        case isFalse hle =>
          have hsame : name = property :=
            String.le_antisymm (String.not_lt.mp hge) (String.not_lt.mp hle)
          subst hsame
          exact List.pairwise_cons.mpr ⟨hhead, hrest⟩

/-! ## The map -/

def empty : Style := ⟨[], List.Pairwise.nil⟩

instance : Inhabited Style := ⟨empty⟩

instance : DecidableEq Style := fun first second =>
  if h : first.entries = second.entries then
    isTrue (by cases first; cases second; simpa using h)
  else
    isFalse fun heq => h (by rw [heq])

/-- The value of a property. -/
def get? (style : Style) (property : String) : Option String :=
  style.entries.lookup property

/-- The style with one property set; the value it had before is replaced. -/
def set (style : Style) (property value : String) : Style :=
  ⟨insertEntry property value style.entries, increasing_insertEntry style.increasing⟩

/-- The style without one property. -/
def erase (style : Style) (property : String) : Style :=
  ⟨style.entries.filter (·.1 ≠ property), style.increasing.filter _⟩

/-- The style that results from setting pairs in their order, so that a later pair wins. -/
def ofList (pairs : List (String × String)) : Style :=
  pairs.foldl (fun style (property, value) => style.set property value) empty

def size (style : Style) : Nat := style.entries.length

def isEmpty (style : Style) : Bool := style.entries.isEmpty

/-! ## What is kept -/

theorem lookup_insertEntry (property value other : String) (entries : List (String × String)) :
    (insertEntry property value entries).lookup other
      = if other = property then some value else entries.lookup other := by
  induction entries with
  | nil => simp [insertEntry, lookup_cons_eq_ite]
  | cons head rest ih =>
      obtain ⟨name, old⟩ := head
      rw [insertEntry]
      by_cases hlt : property < name
      · simp [hlt, lookup_cons_eq_ite]
      · by_cases hgt : name < property
        · have hne : name ≠ property := fun heq => String.lt_irrefl _ (heq ▸ hgt)
          by_cases hname : other = name <;> simp [hlt, hgt, lookup_cons_eq_ite, hname, hne, ih]
        · have hsame : name = property :=
            String.le_antisymm (String.not_lt.mp hlt) (String.not_lt.mp hgt)
          subst hsame
          by_cases hother : other = name <;> simp [lookup_cons_eq_ite, hother]

/-- After a property is set it has the new value, and every other one has what it had. -/
theorem get?_set (style : Style) (property value other : String) :
    (style.set property value).get? other
      = if other = property then some value else style.get? other :=
  lookup_insertEntry property value other style.entries

/-! ## Written form -/

/-- One property as a declaration. -/
def renderEntry (entry : String × String) : String :=
  entry.1 ++ ": " ++ entry.2 ++ ";"

/-- The declarations of a style in the order of their names, separated by single spaces. -/
def render (style : Style) : String :=
  " ".intercalate (style.entries.map renderEntry)

end Style

end Storyboard
