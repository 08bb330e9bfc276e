import Storyboard.Node

/-!
# Registries

A registry keeps a value for each of some nodes.  Later entries stand first, and each node is meant
to have at most one: a value is only ever added for a node that has just been given its name.
-/

namespace Storyboard

/-- Values kept by node. -/
structure Registry (α : Type) where
  entries : List (NodeId × α)

namespace Registry

variable {α : Type}

def empty : Registry α := ⟨[]⟩

def keys (registry : Registry α) : List NodeId := registry.entries.map (·.1)

/-- The value of a node. -/
def get? (registry : Registry α) (id : NodeId) : Option α := registry.entries.lookup id

def contains (registry : Registry α) (id : NodeId) : Bool := (registry.get? id).isSome

def size (registry : Registry α) : Nat := registry.entries.length

/-- Adds a value for a node that has none. -/
def add (registry : Registry α) (id : NodeId) (value : α) : Registry α :=
  ⟨(id, value) :: registry.entries⟩

/-- Changes the value of a node, if it has one. -/
def modify (registry : Registry α) (id : NodeId) (change : α → α) : Registry α :=
  ⟨registry.entries.map fun entry => if entry.1 = id then (entry.1, change entry.2) else entry⟩

/-- Changes the value of every node. -/
def mapValues (registry : Registry α) (change : NodeId → α → α) : Registry α :=
  ⟨registry.entries.map fun entry => (entry.1, change entry.1 entry.2)⟩

/-- Forgets the value of a node. -/
def erase (registry : Registry α) (id : NodeId) : Registry α :=
  ⟨registry.entries.filter (·.1 ≠ id)⟩

/-! ## What is kept -/

/-- An added node has its value, and every other one has what it had. -/
theorem get?_add (registry : Registry α) (id other : NodeId) (value : α) :
    (registry.add id value).get? other
      = if other = id then some value else registry.get? other :=
  lookup_cons_eq_ite id other value registry.entries

/-- Only the value of the given node is changed. -/
theorem get?_modify (registry : Registry α) (id other : NodeId) (change : α → α) :
    (registry.modify id change).get? other
      = if other = id then (registry.get? other).map change else registry.get? other := by
  obtain ⟨entries⟩ := registry
  simp only [modify, get?]
  induction entries with
  | nil => simp
  | cons entry rest ih =>
      obtain ⟨key, kept⟩ := entry
      rw [List.map_cons, lookup_cons_eq_ite]
      by_cases hkey : key = id
      · subst hkey
        rw [if_pos rfl, lookup_cons_eq_ite, ih]
        by_cases hother : other = key <;> simp [hother]
      · rw [if_neg hkey, lookup_cons_eq_ite, ih]
        by_cases hother : other = key <;> simp [hother, hkey]

/-- Only the given node is forgotten. -/
theorem get?_erase (registry : Registry α) (id other : NodeId) :
    (registry.erase id).get? other = if other = id then none else registry.get? other := by
  obtain ⟨entries⟩ := registry
  simp only [erase, get?]
  induction entries with
  | nil => simp
  | cons entry rest ih =>
      obtain ⟨key, kept⟩ := entry
      rw [lookup_cons_eq_ite, List.filter_cons]
      by_cases hkey : key = id
      · subst hkey
        rw [if_neg (by simp), ih]
        by_cases hother : other = key <;> simp [hother]
      · rw [if_pos (by simpa using hkey), lookup_cons_eq_ite, ih]
        by_cases hother : other = key <;> simp [hother, hkey]

/-! ## Sizes -/

theorem size_erase_le (registry : Registry α) (id : NodeId) :
    (registry.erase id).size ≤ registry.size :=
  List.length_filter_le _ _

theorem mem_keys_of_get? {registry : Registry α} {id : NodeId} {value : α}
    (h : registry.get? id = some value) : ∃ entry ∈ registry.entries, entry.1 = id := by
  obtain ⟨entries⟩ := registry
  simp only [get?] at h
  induction entries with
  | nil => simp at h
  | cons entry rest ih =>
      obtain ⟨key, kept⟩ := entry
      by_cases hkey : id = key
      · exact ⟨(key, kept), by simp, hkey.symm⟩
      · have hne : (id == key) = false := by simpa using hkey
        rw [List.lookup_cons, hne] at h
        obtain ⟨found, hmem, hfound⟩ := ih h
        exact ⟨found, List.mem_cons_of_mem _ hmem, hfound⟩

theorem size_erase_lt {registry : Registry α} {id : NodeId} {value : α}
    (h : registry.get? id = some value) : (registry.erase id).size < registry.size := by
  obtain ⟨entry, hmem, hid⟩ := mem_keys_of_get? h
  exact List.length_filter_lt_length_iff_exists.mpr ⟨entry, hmem, by simp [hid]⟩

end Registry

end Storyboard
