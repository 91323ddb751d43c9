import GroupInterfaces.Proofs.Associations
import GroupInterfaces.Proofs.Implementations

/-!
# Associations from both sides

Associations tell which interfaces a class implements and which classes implement an interface. Both
are read off one list of interfaces for each class, so they agree for all associations. What that
list is after any number of records is told here by the records: a record adds to the interfaces of
its own class and leaves the other classes as they are, so those of a class are the ones recorded
for it, each where it was first recorded.
-/

namespace GroupInterfaces.Associations

variable (a : Associations)

/-! ### The two directions -/

theorem mem_interfacesOf_iff {className : String} {t : TypeRef} :
  t ∈ a.interfacesOf className ↔ ∃ ts, a.byClass.get? className = some ts ∧ t ∈ ts
  := by
  rw [interfacesOf]
  cases a.byClass.get? className with
  | none => simp
  | some ts => simp

/-- A class implements an interface exactly if the interface is one of the class. -/
theorem mem_implementorsOf_iff {className : String} {t : TypeRef} :
  className ∈ a.implementorsOf t ↔ t ∈ a.interfacesOf className
  := by
  rw [mem_interfacesOf_iff]
  constructor
  · intro mem
    obtain ⟨⟨name, ts⟩, entry, rfl⟩ := List.mem_map.mp mem
    obtain ⟨entry, has⟩ := List.mem_filter.mp entry
    use ts, SortedMap.mem_toList_iff.mp entry
    simpa using has
  · rintro ⟨ts, found, has⟩
    apply List.mem_map.mpr
    use (className, ts)
    simp [SortedMap.mem_toList_iff, found, has]

theorem sublist_implementorsOf (t : TypeRef) :
  (a.implementorsOf t).Sublist a.byClass.keys
  := List.filter_sublist.map _

/-- Classes are kept in the order of their names, each of them once. -/
theorem pairwise_lt_classes :
  a.byClass.keys.Pairwise (· < ·)
  := (Entries.ascending_iff_map_fst.mp a.byClass.ascending).imp compareOfLessAndEq_eq_lt.mp

theorem size_eq_card :
  a.size = a.byClass.keys.toFinset.card
  := by
  rw [List.toFinset_card_of_nodup a.byClass.nodup_keys, SortedMap.keys, List.length_map]
  rfl

/-! ### Records one after another -/

theorem interfacesOf_recordEach (records : List (String × TypeRef)) (className : String) :
  (a.recordEach records).interfacesOf className
    = (recordedFor className records).foldl addNew (a.interfacesOf className)
  := by
  rw [interfacesOf, get?_recordEach]
  split
  · next none => rw [none, List.foldl_nil, interfacesOf]
  · rfl

theorem mem_classes_recordEach_iff {records : List (String × TypeRef)} {className : String} :
  className ∈ (a.recordEach records).byClass.keys
    ↔ className ∈ a.byClass.keys ∨ className ∈ records.map (·.1)
  := by
  rw [SortedMap.mem_keys_iff, SortedMap.mem_keys_iff, get?_recordEach]
  simp only [recordedFor_eq_nil_iff]
  split
  · next none => simp [none]
  · next some => simp [not_not.mp some]

/-- After any records, the interfaces of a class are those recorded for it, each where it was first
recorded; the classes that implement an interface are those that have it as one of theirs, once each
and in the order of their names; and there are as many classes as the records name. -/
theorem answers_of_recordEach (records : List (String × TypeRef)) :
  (∀ c, (recordEach {} records).interfacesOf c = (recordedFor c records).eraseDups)
    ∧ (∀ c t, c ∈ (recordEach {} records).implementorsOf t
      ↔ t ∈ (recordEach {} records).interfacesOf c)
    ∧ (∀ t, ((recordEach {} records).implementorsOf t).Pairwise (· < ·))
    ∧ (recordEach {} records).size = (records.map (·.1)).toFinset.card
  := by
  refine ⟨?_, ?_, ?_, ?_⟩
  · intro c
    rw [interfacesOf_recordEach]
    apply foldl_addNew_nil
  · intro c t
    apply mem_implementorsOf_iff
  · intro t
    apply (pairwise_lt_classes _).sublist (sublist_implementorsOf _ t)
  · rw [size_eq_card]
    congr 1
    ext c
    rw [List.mem_toFinset, List.mem_toFinset, mem_classes_recordEach_iff]
    apply or_iff_right List.not_mem_nil

example :
  let recorded := recordEach {}
    [("sample.Order", ⟨"sample", "Line"⟩), ("sample.Item", ⟨"sample", "Line"⟩),
      ("sample.Order", ⟨"sample", "Line"⟩), ("sample.Order", ⟨"sample", "Address"⟩)]
  recorded.interfacesOf "sample.Order" = [⟨"sample", "Line"⟩, ⟨"sample", "Address"⟩]
    ∧ recorded.implementorsOf ⟨"sample", "Line"⟩ = ["sample.Item", "sample.Order"]
    ∧ recorded.size = 2
  := by decide

end GroupInterfaces.Associations
