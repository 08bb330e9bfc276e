import Mathlib.Data.List.Sort
import Storyboard.Tree.Basic

/-!
# Order of creation

Nodes are numbered in the order in which they are made, and everything that a tree keeps is kept in
that order: children and screens with the first one in front, registries with the latest one in
front.  This is why an order never has to be argued about.  Two lists in order with the same members
are the same list (`InOrder.ext`), and two registries in order with the same values are the same
registry (`Registry.LatestFirst.ext`).
-/

namespace Storyboard

theorem NodeId.eq_of_number_eq {first second : NodeId} (h : first.number = second.number) :
    first = second := by
  obtain ⟨number⟩ := first
  exact congrArg NodeId.mk h

/-! ## Lists of nodes -/

/-- The nodes stand in the order in which they were made, each once. -/
def InOrder (ids : List NodeId) : Prop :=
  ids.Pairwise fun first second => first.number < second.number

namespace InOrder

theorem nodup {ids : List NodeId} (h : InOrder ids) : ids.Nodup :=
  h.imp fun hlt heq => absurd (congrArg NodeId.number heq) (Nat.ne_of_lt hlt)

/-- Members and order determine a list. -/
theorem ext {first second : List NodeId} (hfirst : InOrder first) (hsecond : InOrder second)
    (hmem : ∀ id, id ∈ first ↔ id ∈ second) : first = second := by
  have hperm : first.Perm second :=
    (List.perm_ext_iff_of_nodup hfirst.nodup hsecond.nodup).mpr hmem
  exact hperm.eq_of_pairwise
    (fun _ _ _ _ hlt hgt => absurd hlt (Nat.not_lt.mpr (Nat.le_of_lt hgt))) hfirst hsecond

theorem filter {ids : List NodeId} (h : InOrder ids) (keep : NodeId → Bool) :
    InOrder (ids.filter keep) :=
  List.Pairwise.filter keep h

/-- A list in order goes on with another one whose nodes were all made later. -/
theorem append {first second : List NodeId} (hfirst : InOrder first) (hsecond : InOrder second)
    (hlater : ∀ earlier ∈ first, ∀ later ∈ second, earlier.number < later.number) :
    InOrder (first ++ second) :=
  List.pairwise_append.mpr ⟨hfirst, hsecond, hlater⟩

/-- A list in order goes on with a node that was made after all of its nodes. -/
theorem concat {ids : List NodeId} {id : NodeId} (h : InOrder ids)
    (hlater : ∀ earlier ∈ ids, earlier.number < id.number) : InOrder (ids ++ [id]) := by
  refine h.append (List.pairwise_singleton _ _) fun earlier hearlier later hmem => ?_
  rw [List.mem_singleton.mp hmem]
  exact hlater earlier hearlier

/-- No node was made after the last one. -/
theorem number_le_getLast {ids : List NodeId} {id last : NodeId} (h : InOrder ids) (hid : id ∈ ids)
    (hlast : ids.getLast? = some last) : id.number ≤ last.number := by
  obtain ⟨others, rfl⟩ := List.getLast?_eq_some_iff.mp hlast
  rcases List.mem_append.mp hid with hother | hsame
  · have hlt := (List.pairwise_append.mp h).2.2 id hother last (List.mem_singleton_self _)
    exact Nat.le_of_lt hlt
  · rw [List.mem_singleton.mp hsame]

/-- A list in order is its older part followed by its newer part. -/
theorem eq_append_filter {ids older : List NodeId} {next : Nat} (hids : InOrder ids)
    (holder : InOrder older) (hlt : ∀ id ∈ older, id.number < next)
    (hmem : ∀ id, id.number < next → (id ∈ ids ↔ id ∈ older)) :
    ids = older ++ ids.filter fun id => decide (next ≤ id.number) := by
  -- two lists in order are the same if their members are
  refine hids.ext (holder.append (hids.filter _) ?_) fun id => ?_
  · intro earlier hearlier later hlater
    have hnew : next ≤ later.number := by simpa using (List.mem_filter.mp hlater).2
    exact Nat.lt_of_lt_of_le (hlt earlier hearlier) hnew
  · rw [List.mem_append, List.mem_filter, decide_eq_true_eq]
    rcases Nat.lt_or_ge id.number next with hnumber | hnumber
    · rw [hmem id hnumber]
      exact ⟨Or.inl, fun h => h.elim (fun hold => hold)
        fun hnew => absurd hnew.2 (Nat.not_le.mpr hnumber)⟩
    · exact ⟨fun h => Or.inr ⟨h, hnumber⟩, fun h => h.elim
        (fun hold => absurd (hlt id hold) (Nat.not_lt.mpr hnumber)) And.left⟩

end InOrder

/-! ## Registries -/

namespace Registry

variable {α : Type}

/-- Every node has at most one value, and the entries of later nodes stand first. -/
def LatestFirst (registry : Registry α) : Prop :=
  registry.entries.Pairwise fun later earlier => earlier.1.number < later.1.number

theorem mem_keys_iff (registry : Registry α) (id : NodeId) :
    id ∈ registry.keys ↔ registry.contains id = true := by
  obtain ⟨entries⟩ := registry
  simp only [keys, contains, get?]
  induction entries with
  | nil => simp
  | cons entry rest ih =>
      obtain ⟨key, value⟩ := entry
      rw [lookup_cons_eq_ite, List.map_cons, List.mem_cons, ih]
      by_cases hkey : id = key <;> simp [hkey]

theorem get?_eq_none_iff (registry : Registry α) (id : NodeId) :
    registry.get? id = none ↔ registry.contains id = false := by
  simp [contains]

theorem contains_of_get? {registry : Registry α} {id : NodeId} {value : α}
    (h : registry.get? id = some value) : registry.contains id = true := by
  simp [contains, h]

theorem contains_congr {β : Type} {first : Registry α} {second : Registry β}
    (hkeys : first.keys = second.keys) (id : NodeId) : first.contains id = second.contains id := by
  rw [Bool.eq_iff_iff, ← mem_keys_iff, ← mem_keys_iff, hkeys]

theorem keys_modify (registry : Registry α) (id : NodeId) (change : α → α) :
    (registry.modify id change).keys = registry.keys := by
  simp only [keys, modify, List.map_map]
  refine List.map_congr_left fun entry _ => ?_
  by_cases hentry : entry.1 = id <;> simp [hentry]

theorem keys_erase_sublist (registry : Registry α) (id : NodeId) :
    (registry.erase id).keys.Sublist registry.keys :=
  List.filter_sublist.map _

theorem keys_mapValues (registry : Registry α) (change : NodeId → α → α) :
    (registry.mapValues change).keys = registry.keys := by
  simp [keys, mapValues, Function.comp_def]

/-- The value of every node is changed. -/
theorem get?_mapValues (registry : Registry α) (change : NodeId → α → α) (id : NodeId) :
    (registry.mapValues change).get? id = (registry.get? id).map (change id) := by
  obtain ⟨entries⟩ := registry
  simp only [mapValues, get?]
  induction entries with
  | nil => simp
  | cons entry rest ih =>
      obtain ⟨key, value⟩ := entry
      rw [List.map_cons, lookup_cons_eq_ite, lookup_cons_eq_ite, ih]
      by_cases hkey : id = key <;> simp [hkey]

namespace LatestFirst

theorem nodup_keys {registry : Registry α} (h : registry.LatestFirst) : registry.keys.Nodup := by
  refine List.pairwise_map.mpr (h.imp fun hlt heq => ?_)
  exact absurd (congrArg NodeId.number heq) (Nat.ne_of_gt hlt)

/-- The order is a matter of the keys alone, and some of them may be missing. -/
theorem of_keys_sublist {β : Type} {first : Registry α} {second : Registry β}
    (h : first.LatestFirst) (hkeys : second.keys.Sublist first.keys) : second.LatestFirst := by
  have hmapped : first.keys.Pairwise fun later earlier => earlier.number < later.number :=
    List.pairwise_map.mpr h
  exact List.pairwise_map.mp (hmapped.sublist hkeys)

theorem of_keys_eq {β : Type} {first : Registry α} {second : Registry β} (h : first.LatestFirst)
    (hkeys : second.keys = first.keys) : second.LatestFirst :=
  h.of_keys_sublist (hkeys ▸ List.Sublist.refl _)

theorem add {registry : Registry α} {id : NodeId} (h : registry.LatestFirst) (value : α)
    (hnew : ∀ other, registry.contains other = true → other.number < id.number) :
    (registry.add id value).LatestFirst := by
  refine List.pairwise_cons.mpr ⟨fun entry hentry => hnew entry.1 ?_, h⟩
  exact (registry.mem_keys_iff entry.1).mp (List.mem_map_of_mem hentry)

theorem get?_of_mem {registry : Registry α} (h : registry.LatestFirst) {id : NodeId} {value : α}
    (hmem : (id, value) ∈ registry.entries) : registry.get? id = some value := by
  obtain ⟨entries⟩ := registry
  simp only [LatestFirst, get?] at h hmem ⊢
  -- the entry that is found first is the one of the newest node, so no other has its key
  induction entries with
  | nil => simp at hmem
  | cons entry rest ih =>
      obtain ⟨key, kept⟩ := entry
      rw [lookup_cons_eq_ite]
      rcases List.mem_cons.mp hmem with heq | hrest
      · cases heq
        exact if_pos rfl
      · have hlt : id.number < key.number := (List.pairwise_cons.mp h).1 _ hrest
        have hne : id ≠ key := fun heq => absurd (congrArg NodeId.number heq) (Nat.ne_of_lt hlt)
        rw [if_neg hne]
        exact ih (List.pairwise_cons.mp h).2 hrest

theorem mem_entries_iff {registry : Registry α} (h : registry.LatestFirst) (id : NodeId)
    (value : α) : (id, value) ∈ registry.entries ↔ registry.get? id = some value := by
  refine ⟨h.get?_of_mem, fun hget => ?_⟩
  obtain ⟨⟨key, kept⟩, hmem, hkey⟩ := mem_keys_of_get? hget
  obtain rfl : key = id := hkey
  have hkept : some kept = some value := (h.get?_of_mem hmem).symm.trans hget
  rw [← Option.some.inj hkept]
  exact hmem

/-- The values determine a registry in order. -/
theorem ext {first second : Registry α} (hfirst : first.LatestFirst)
    (hsecond : second.LatestFirst) (hget : ∀ id, first.get? id = second.get? id) :
    first = second := by
  have hnodup {registry : Registry α} (h : registry.LatestFirst) : registry.entries.Nodup :=
    List.Nodup.of_map _ h.nodup_keys
  have hperm : first.entries.Perm second.entries := by
    refine (List.perm_ext_iff_of_nodup (hnodup hfirst) (hnodup hsecond)).mpr fun entry => ?_
    obtain ⟨id, value⟩ := entry
    rw [hfirst.mem_entries_iff, hsecond.mem_entries_iff, hget]
  have hentries : first.entries = second.entries :=
    hperm.eq_of_pairwise
      (fun _ _ _ _ hlt hgt => absurd hlt (Nat.not_lt.mpr (Nat.le_of_lt hgt))) hfirst hsecond
  exact congrArg Registry.mk hentries

end LatestFirst

end Registry

end Storyboard
