import GroupInterfaces.Proofs.Lists
import GroupInterfaces.SortedMap

/-!
# Sorted maps by look-up

What the operations of a sorted map do is said here by equality of keys. The values of a map
are what it answers, and a map made of a list answers with the last entry at a key.
-/

namespace GroupInterfaces

open Std

theorem Entries.mem_modify {κ : Type u} {α : Type v} [Ord κ] {k : κ} {f : α → α}
    {entries : List (κ × α)} {e : κ × α} (h : e ∈ modify k f entries) :
  e ∈ entries ∨ ∃ e' ∈ entries, (e'.1, f e'.2) = e
  := by
  induction entries with
  | nil => cases h
  | cons first entries ih =>
      rw [modify] at h
      split at h
      · rcases List.mem_cons.mp h with rfl | mem
        · apply Or.inr ⟨first, List.mem_cons_self, rfl⟩
        · apply Or.inl (List.mem_cons_of_mem first mem)
      · rcases List.mem_cons.mp h with rfl | mem
        · apply Or.inl List.mem_cons_self
        · rcases ih mem with mem | ⟨e', mem, same⟩
          · apply Or.inl (List.mem_cons_of_mem first mem)
          · apply Or.inr ⟨e', List.mem_cons_of_mem first mem, same⟩

namespace SortedMap

variable {κ : Type u} {α : Type v} {β : Type w} [Ord κ] [TransOrd κ] [LawfulEqOrd κ]

section

variable [DecidableEq κ]

theorem get?_insert_key (m : SortedMap κ α) (k k' : κ) (a : α) :
  (m.insert k a).get? k' = if k' = k then some a else m.get? k'
  := by
  rw [get?_insert]
  simp only [Std.compare_eq_iff_eq]

theorem get?_erase_key (m : SortedMap κ α) (k k' : κ) :
  (m.erase k).get? k' = if k' = k then none else m.get? k'
  := by
  rw [get?_erase]
  simp only [Std.compare_eq_iff_eq]

theorem get?_modify_key (m : SortedMap κ α) (k k' : κ) (f : α → α) :
  (m.modify k f).get? k' = if k' = k then (m.get? k').map f else m.get? k'
  := by
  rw [get?_modify]
  simp only [Std.compare_eq_iff_eq]

end

theorem modify_eq_insert {m : SortedMap κ α} {k : κ} {a : α} (found : m.get? k = some a)
    (f : α → α) :
  m.modify k f = m.insert k (f a)
  := by
  classical
  apply ext_get?
  intro k'
  rw [get?_modify_key, get?_insert_key]
  split
  · next same => rw [same, found, Option.map_some]
  · rfl

theorem insert_eq_self {m : SortedMap κ α} {k : κ} {a : α} (found : m.get? k = some a) :
  m.insert k a = m
  := by
  classical
  apply ext_get?
  intro k'
  rw [get?_insert_key]
  split
  · next same => rw [same, found]
  · rfl

theorem modify_eq_self {m : SortedMap κ α} {k : κ} (absent : m.get? k = none) (f : α → α) :
  m.modify k f = m
  := by
  classical
  apply ext_get?
  intro k'
  rw [get?_modify_key]
  split
  · next same => rw [same, absent, Option.map_none]
  · rfl

theorem mem_keys_iff {m : SortedMap κ α} {k : κ} :
  k ∈ m.keys ↔ (m.get? k).isSome
  := by
  rw [Option.isSome_iff_exists]
  constructor
  · intro h
    obtain ⟨⟨k, a⟩, mem, rfl⟩ := List.mem_map.mp h
    use a, mem_toList_iff.mp mem
  · rintro ⟨a, found⟩
    apply List.mem_map_of_mem (mem_toList_iff.mpr found)

/-- The map answers with a value exactly if the value is one of its entries. -/
theorem mem_values_iff {m : SortedMap κ α} {a : α} :
  a ∈ m.values ↔ ∃ k, m.get? k = some a
  := by
  constructor
  · intro h
    obtain ⟨⟨k, _⟩, mem, rfl⟩ := List.mem_map.mp h
    use k
    apply mem_toList_iff.mp mem
  · rintro ⟨k, found⟩
    apply List.mem_map.mpr
    use (k, a), mem_toList_iff.mpr found

omit [TransOrd κ] [LawfulEqOrd κ] in
theorem get?_mapValues (f : α → β) (m : SortedMap κ α) (k : κ) :
  (m.mapValues f).get? k = (m.get? k).map f
  := by
  obtain ⟨entries, ascending⟩ := m
  simp only [get?, mapValues]
  induction entries with
  | nil => rfl
  | cons head rest ih =>
      obtain ⟨_, others⟩ := List.pairwise_cons.mp ascending
      by_cases here : compare k head.1 = .eq
      · simp [Entries.get?, here]
      · simpa [Entries.get?, here] using ih others

omit [TransOrd κ] [LawfulEqOrd κ] in
theorem values_mapValues (f : α → β) (m : SortedMap κ α) :
  (m.mapValues f).values = m.values.map f
  := by
  simp [values, mapValues]

/-! ### Maps of lists -/

/-- Inserting the entries of a list one by one, the last entry at a key is what counts, and
the map in which they are put answers where there is none. -/
theorem get?_foldl_insert [DecidableEq κ] (entries : List (κ × α)) (m : SortedMap κ α) (k : κ) :
  (entries.foldl (fun m e => m.insert e.1 e.2) m).get? k
    = ((entries.reverse.find? (·.1 = k)).map (·.2)).or (m.get? k)
  := by
  induction entries generalizing m with
  | nil => rfl
  | cons head rest ih =>
      rw [List.foldl_cons, ih, get?_insert_key, List.reverse_cons, List.find?_append]
      cases rest.reverse.find? (·.1 = k) with
      | some e => rfl
      | none =>
          by_cases h : head.1 = k
          · simp [h]
          · simp [h, Ne.symm h]

theorem get?_ofList [DecidableEq κ] (entries : List (κ × α)) (k : κ) :
  (ofList entries).get? k = (entries.reverse.find? (·.1 = k)).map (·.2)
  := by
  rw [ofList, get?_foldl_insert, get?_empty, Option.or_none]

/-- In a map made of a list whose keys are all different, every entry of the list is an entry
of the map, and there are no others. -/
theorem get?_ofList_eq_some_iff {entries : List (κ × α)} (distinct : (entries.map (·.1)).Nodup)
    {k : κ} {a : α} :
  (ofList entries).get? k = some a ↔ (k, a) ∈ entries
  := by
  classical
  have keys : (entries.reverse.map (·.1)).Nodup := by
    rw [List.map_reverse, List.nodup_reverse]
    apply distinct
  rw [get?_ofList, Option.map_eq_some_iff]
  constructor
  · rintro ⟨⟨k', _⟩, found, rfl⟩
    obtain ⟨mem, rfl⟩ := (find?_eq_some_iff_of_nodup keys).mp found
    apply List.mem_reverse.mp mem
  · intro mem
    use (k, a), (find?_eq_some_iff_of_nodup keys).mpr ⟨List.mem_reverse.mpr mem, rfl⟩

omit [LawfulEqOrd κ] in
/-- No two entries of a map have the same key. -/
theorem nodup_keys (m : SortedMap κ α) :
  m.keys.Nodup
  := by
  apply (Entries.ascending_iff_map_fst.mp m.ascending).imp
  intro a b lt same
  subst same
  simp at lt

/-- A map is made of its own entries. -/
theorem ofList_toList (m : SortedMap κ α) :
  ofList m.toList = m
  := by
  apply ext_get?
  intro k
  apply Option.ext
  intro a
  rw [get?_ofList_eq_some_iff m.nodup_keys, mem_toList_iff]

/-- A map made of a list whose keys are all different has the entries of the list. -/
theorem toList_ofList_perm {entries : List (κ × α)} (distinct : (entries.map (·.1)).Nodup) :
  (ofList entries).toList.Perm entries
  := by
  have nodup : (ofList entries).toList.Nodup := List.Nodup.of_map _ (nodup_keys _)
  apply (List.perm_ext_iff_of_nodup nodup (List.Nodup.of_map _ distinct)).mpr
  rintro ⟨k, a⟩
  rw [mem_toList_iff, get?_ofList_eq_some_iff distinct]

end SortedMap

end GroupInterfaces
