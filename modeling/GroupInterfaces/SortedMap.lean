/-!
# Sorted maps

`SortedMap κ α` is a finite map whose entries are a list in strictly increasing order of
their keys. Two such maps that answer every lookup alike are equal, so a map does not
remember the order in which its entries were inserted.

The operations on bare lists of entries come first, in the namespace `Entries`; they are
used on their own where a type nests itself as the values of a map.
-/

namespace GroupInterfaces

open Std

/-! ### Lists of entries in key order -/

namespace Entries

variable {κ : Type u} {α : Type v} {β : Type w} [Ord κ]

/-- The value at a key. -/
def get? (k : κ) : List (κ × α) → Option α
  | [] => none
  | (k', a) :: rest => if compare k k' = .eq then some a else get? k rest

/-- The entries with the value at a key set, in order if the given ones are. -/
def insert (k : κ) (a : α) : List (κ × α) → List (κ × α)
  | [] => [(k, a)]
  | (k', a') :: rest =>
    match compare k k' with
    | .lt => (k, a) :: (k', a') :: rest
    | .eq => (k, a) :: rest
    | .gt => (k', a') :: insert k a rest

/-- The entries without those at a key. -/
def erase (k : κ) (entries : List (κ × α)) : List (κ × α) :=
  entries.filter fun e => compare k e.1 != .eq

/-- The entries with the value at a key changed by a function. -/
def modify (k : κ) (f : α → α) : List (κ × α) → List (κ × α)
  | [] => []
  | (k', a) :: rest =>
    if compare k k' = .eq then (k', f a) :: rest else (k', a) :: modify k f rest

/-- The keys of a list of entries increase strictly. -/
def Ascending (entries : List (κ × α)) : Prop :=
  entries.Pairwise fun a b => compare a.1 b.1 = .lt

theorem ascending_nil :
  Ascending ([] : List (κ × α))
  := List.Pairwise.nil

theorem key_mem_insert {k : κ} {a : α} {entries : List (κ × α)} {e : κ × α}
    (h : e ∈ insert k a entries) :
  e = (k, a) ∨ e ∈ entries
  := by
  induction entries with
  | nil => exact .inl (by simpa [insert] using h)
  | cons head rest ih =>
    obtain ⟨k', a'⟩ := head
    simp only [insert] at h
    split at h
    · simpa using h
    · rcases List.mem_cons.1 h with h | h
      · exact .inl h
      · exact .inr (List.mem_cons_of_mem _ h)
    · rcases List.mem_cons.1 h with h | h
      · exact .inr (h ▸ List.mem_cons_self)
      · exact (ih h).imp_right (List.mem_cons_of_mem _)

theorem ascending_insert [TransOrd κ] [LawfulEqOrd κ] (k : κ) (a : α)
    {entries : List (κ × α)} (h : Ascending entries) :
  Ascending (insert k a entries)
  := by
  induction entries with
  | nil => exact List.pairwise_singleton _ _
  | cons head rest ih =>
    obtain ⟨k', a'⟩ := head
    obtain ⟨first, others⟩ := List.pairwise_cons.1 h
    simp only [insert]
    split
    · next lt =>
      refine List.pairwise_cons.2 ⟨fun e mem => ?_, h⟩
      rcases List.mem_cons.1 mem with rfl | mem
      · exact lt
      · exact TransCmp.lt_trans lt (first e mem)
    · next eq =>
      have same : k = k' := LawfulEqCmp.eq_of_compare eq
      exact List.pairwise_cons.2 ⟨fun e mem => same ▸ first e mem, others⟩
    · next gt =>
      refine List.pairwise_cons.2 ⟨fun e mem => ?_, ih others⟩
      rcases key_mem_insert mem with rfl | mem
      · exact OrientedCmp.lt_of_gt gt
      · exact first e mem

theorem ascending_erase (k : κ) {entries : List (κ × α)} (h : Ascending entries) :
  Ascending (erase k entries)
  := List.Pairwise.filter _ h

theorem map_fst_modify (k : κ) (f : α → α) (entries : List (κ × α)) :
  (modify k f entries).map (·.1) = entries.map (·.1)
  := by
  induction entries with
  | nil => rfl
  | cons head rest ih => grind [modify]

theorem ascending_iff_map_fst {entries : List (κ × α)} :
  Ascending entries ↔ (entries.map (·.1)).Pairwise fun a b => compare a b = .lt
  := by
  rw [List.pairwise_map]
  rfl

theorem ascending_modify (k : κ) (f : α → α) {entries : List (κ × α)}
    (h : Ascending entries) :
  Ascending (modify k f entries)
  := by
  rw [ascending_iff_map_fst, map_fst_modify]
  exact ascending_iff_map_fst.1 h

theorem get?_insert [TransOrd κ] [LawfulEqOrd κ] (k k' : κ) (a : α)
    (entries : List (κ × α)) :
  get? k' (insert k a entries) = if compare k' k = .eq then some a else get? k' entries
  := by
  induction entries with
  | nil => rfl
  | cons head rest ih =>
    obtain ⟨k₁, a₁⟩ := head
    simp only [insert]
    split
    · rfl
    · next eq =>
      have same : k = k₁ := LawfulEqCmp.eq_of_compare eq
      subst same
      by_cases h : compare k' k = .eq <;> simp [get?, h]
    · next gt =>
      by_cases h : compare k' k₁ = .eq
      · have same : k' = k₁ := LawfulEqCmp.eq_of_compare h
        subst same
        have apart : compare k' k ≠ .eq := by
          rw [OrientedCmp.lt_of_gt gt]
          decide
        simp [get?, apart]
      · simp [get?, h, ih]

theorem get?_erase [TransOrd κ] [LawfulEqOrd κ] (k k' : κ) (entries : List (κ × α)) :
  get? k' (erase k entries) = if compare k' k = .eq then none else get? k' entries
  := by
  induction entries with
  | nil => simp [erase, get?]
  | cons head rest ih =>
    obtain ⟨k₁, a₁⟩ := head
    by_cases drop : compare k k₁ = .eq
    · have same : k = k₁ := LawfulEqCmp.eq_of_compare drop
      subst same
      have tail : erase k ((k, a₁) :: rest) = erase k rest := by simp [erase]
      rw [tail, ih]
      by_cases h : compare k' k = .eq <;> simp [get?, h]
    · have tail : erase k ((k₁, a₁) :: rest) = (k₁, a₁) :: erase k rest := by
        simp [erase, drop]
      rw [tail]
      by_cases h : compare k' k₁ = .eq
      · have same : k' = k₁ := LawfulEqCmp.eq_of_compare h
        subst same
        have apart : compare k' k ≠ .eq := by
          intro eq
          rw [LawfulEqCmp.eq_of_compare eq] at drop
          exact drop ReflCmp.compare_self
        simp [get?, apart]
      · simp [get?, h, ih]

theorem get?_modify [TransOrd κ] [LawfulEqOrd κ] (k k' : κ) (f : α → α)
    (entries : List (κ × α)) :
  get? k' (modify k f entries)
    = if compare k' k = .eq then (get? k' entries).map f else get? k' entries
  := by
  induction entries with
  | nil => simp [modify, get?]
  | cons head rest ih =>
    obtain ⟨k₁, a₁⟩ := head
    by_cases here : compare k k₁ = .eq
    · have same : k = k₁ := LawfulEqCmp.eq_of_compare here
      subst same
      by_cases h : compare k' k = .eq <;> simp [modify, get?, h]
    · by_cases h : compare k' k₁ = .eq
      · have same : k' = k₁ := LawfulEqCmp.eq_of_compare h
        subst same
        have apart : compare k' k ≠ .eq := by
          intro eq
          rw [LawfulEqCmp.eq_of_compare eq] at here
          exact here ReflCmp.compare_self
        simp [modify, get?, here, apart]
      · simp [modify, get?, here, h, ih]

theorem get?_eq_none_of_lt [TransOrd κ] {k : κ} {entries : List (κ × α)}
    (h : ∀ e ∈ entries, compare k e.1 = .lt) :
  get? k entries = none
  := by
  induction entries with
  | nil => rfl
  | cons head rest ih =>
    have apart : compare k head.1 = .lt := h head List.mem_cons_self
    simp [get?, apart, ih fun e mem => h e (List.mem_cons_of_mem _ mem)]

theorem get?_eq_some_iff_mem [TransOrd κ] [LawfulEqOrd κ] {k : κ} {a : α}
    {entries : List (κ × α)} (h : Ascending entries) :
  get? k entries = some a ↔ (k, a) ∈ entries
  := by
  induction entries with
  | nil => simp [get?]
  | cons head rest ih =>
    obtain ⟨k', a'⟩ := head
    obtain ⟨first, others⟩ := List.pairwise_cons.1 h
    by_cases here : compare k k' = .eq
    · have same : k = k' := LawfulEqCmp.eq_of_compare here
      subst same
      have absent : ∀ b, (k, b) ∉ rest := by
        intro b mem
        have lt := first _ mem
        simp at lt
      simp [get?, absent a, eq_comm]
    · have apart : k ≠ k' := by
        rintro rfl
        exact here ReflCmp.compare_self
      simp [get?, here, ih others, apart]

theorem ascending_ext [TransOrd κ] [LawfulEqOrd κ] {entries₁ entries₂ : List (κ × α)}
    (h₁ : Ascending entries₁) (h₂ : Ascending entries₂)
    (h : ∀ k, get? k entries₁ = get? k entries₂) :
  entries₁ = entries₂
  := by
  induction entries₁ generalizing entries₂ with
  | nil =>
    cases entries₂ with
    | nil => rfl
    | cons head rest =>
      have found := h head.1
      simp [get?, ReflCmp.compare_self] at found
  | cons head₁ rest₁ ih =>
    obtain ⟨first₁, others₁⟩ := List.pairwise_cons.1 h₁
    cases entries₂ with
    | nil =>
      have found := h head₁.1
      simp [get?, ReflCmp.compare_self] at found
    | cons head₂ rest₂ =>
      obtain ⟨first₂, others₂⟩ := List.pairwise_cons.1 h₂
      have key : head₁.1 = head₂.1 := by
        have found₁ : get? head₁.1 (head₂ :: rest₂) = some head₁.2 := by
          rw [← h]
          simp [get?, ReflCmp.compare_self]
        have found₂ : get? head₂.1 (head₁ :: rest₁) = some head₂.2 := by
          rw [h]
          simp [get?, ReflCmp.compare_self]
        rcases List.mem_cons.1 ((get?_eq_some_iff_mem h₂).1 found₁) with eq | mem₁
        · exact congrArg Prod.fst eq
        · rcases List.mem_cons.1 ((get?_eq_some_iff_mem h₁).1 found₂) with eq | mem₂
          · exact (congrArg Prod.fst eq).symm
          · have lt₁ : compare head₂.1 head₁.1 = .lt := first₂ _ mem₁
            have lt₂ : compare head₁.1 head₂.1 = .lt := first₁ _ mem₂
            rw [OrientedCmp.gt_of_lt lt₁] at lt₂
            contradiction
      obtain ⟨k₁, a₁⟩ := head₁
      obtain ⟨k₂, a₂⟩ := head₂
      simp only at key
      subst key
      have value : a₁ = a₂ := by
        have found := h k₁
        simpa [get?, ReflCmp.compare_self] using found
      subst value
      have tail : rest₁ = rest₂ := by
        refine ih others₁ others₂ fun k => ?_
        by_cases here : compare k k₁ = .eq
        · have same : k = k₁ := LawfulEqCmp.eq_of_compare here
          subst same
          rw [get?_eq_none_of_lt first₁, get?_eq_none_of_lt first₂]
        · have found := h k
          simpa [get?, here] using found
      rw [tail]

end Entries

/-! ### Maps -/

/-- Finite maps with ordered keys. -/
structure SortedMap (κ : Type u) (α : Type v) [Ord κ] where
  /-- The entries of the map, in key order. -/
  toList : List (κ × α)
  ascending : Entries.Ascending toList

namespace SortedMap

variable {κ : Type u} {α : Type v} {β : Type w} [Ord κ]

instance [DecidableEq κ] [DecidableEq α] : DecidableEq (SortedMap κ α) := fun m₁ m₂ =>
  decidable_of_iff (m₁.toList = m₂.toList) (by cases m₁; cases m₂; simp)

/-- The map without entries. -/
def empty : SortedMap κ α := ⟨[], Entries.ascending_nil⟩

instance : EmptyCollection (SortedMap κ α) := ⟨empty⟩

instance : Inhabited (SortedMap κ α) := ⟨empty⟩

/-- The value at a key. -/
def get? (m : SortedMap κ α) (k : κ) : Option α := Entries.get? k m.toList

/-- The map has a value at a key. -/
def contains (m : SortedMap κ α) (k : κ) : Bool := (m.get? k).isSome

/-- The map without the entry at a key. -/
def erase (m : SortedMap κ α) (k : κ) : SortedMap κ α :=
  ⟨Entries.erase k m.toList, Entries.ascending_erase k m.ascending⟩

/-- The map with the value at a key, if there is one, changed by a function. -/
def modify (m : SortedMap κ α) (k : κ) (f : α → α) : SortedMap κ α :=
  ⟨Entries.modify k f m.toList, Entries.ascending_modify k f m.ascending⟩

/-- The keys, in order. -/
def keys (m : SortedMap κ α) : List κ := m.toList.map (·.1)

/-- The values, in the order of their keys. -/
def values (m : SortedMap κ α) : List α := m.toList.map (·.2)

/-- The number of entries. -/
def size (m : SortedMap κ α) : Nat := m.toList.length

/-- The map has no entries. -/
def isEmpty (m : SortedMap κ α) : Bool := m.toList.isEmpty

/-- The map with a function applied to every value. -/
def mapValues (f : α → β) (m : SortedMap κ α) : SortedMap κ β :=
  ⟨m.toList.map fun e => (e.1, f e.2), by
    rw [Entries.Ascending, List.pairwise_map]
    exact m.ascending⟩

@[simp]
theorem get?_empty (k : κ) :
  (empty : SortedMap κ α).get? k = none
  := rfl

variable [TransOrd κ] [LawfulEqOrd κ]

/-- The map with the value at a key set. -/
def insert (m : SortedMap κ α) (k : κ) (a : α) : SortedMap κ α :=
  ⟨Entries.insert k a m.toList, Entries.ascending_insert k a m.ascending⟩

/-- The map of a list of entries, of which the last one at a key counts. -/
def ofList (entries : List (κ × α)) : SortedMap κ α :=
  entries.foldl (fun m e => m.insert e.1 e.2) empty

theorem ext_get? {m₁ m₂ : SortedMap κ α} (h : ∀ k, m₁.get? k = m₂.get? k) :
  m₁ = m₂
  := by
  obtain ⟨entries₁, h₁⟩ := m₁
  obtain ⟨entries₂, h₂⟩ := m₂
  have same : entries₁ = entries₂ := Entries.ascending_ext h₁ h₂ h
  subst same
  rfl

theorem get?_insert (m : SortedMap κ α) (k k' : κ) (a : α) :
  (m.insert k a).get? k' = if compare k' k = .eq then some a else m.get? k'
  := Entries.get?_insert k k' a m.toList

theorem get?_erase (m : SortedMap κ α) (k k' : κ) :
  (m.erase k).get? k' = if compare k' k = .eq then none else m.get? k'
  := Entries.get?_erase k k' m.toList

theorem get?_modify (m : SortedMap κ α) (k k' : κ) (f : α → α) :
  (m.modify k f).get? k' = if compare k' k = .eq then (m.get? k').map f else m.get? k'
  := Entries.get?_modify k k' f m.toList

theorem mem_toList_iff {m : SortedMap κ α} {k : κ} {a : α} :
  (k, a) ∈ m.toList ↔ m.get? k = some a
  := (Entries.get?_eq_some_iff_mem m.ascending).symm

end SortedMap

end GroupInterfaces
